import UrlFilter.Backend
import UrlFilter.Relational.Predicate

namespace UrlFilter.Relational

/-!
# Queries of a database

* `Select` — the rows of some tables that meet predicates, in an order and on a page.
* `backend` — the backend of such queries, for the columns of a source.
* `Select.counted` — the query whose rows are counted: order, page and columns do not matter.

Of a query only the parts are kept that conditions, pages and counts change or look at.  As the
toolkit documents them, queries are values: each of the operations below gives a new one, and what
it does not name stays as it was.  A condition is added to those that are there, all of which a row
must meet, and a limit or an offset takes the place of the old one.
-/

/-- The rows of tables that meet predicates.  Without a limit all rows are meant, and without an
offset those from the first one on. -/
structure Select where
  tables : List String
  predicates : List Predicate := []
  limit : Option Int := none
  offset : Option Int := none
  order : List Column := []

namespace Select

/-- All rows of a source. -/
def ofSource (s : Source) : Select :=
  { tables := s.tableNames }

/-- The rows in the order of one more column. -/
def orderBy (q : Select) (column : Column) : Select :=
  { q with order := q.order ++ [column] }

/-- The query with a limit and an offset; what is not given stays as it is.  So a page can be asked
for in two calls, one for each part. -/
def paginate (q : Select) (limit offset : Option Int) : Select :=
  { q with limit := limit <|> q.limit, offset := offset <|> q.offset }

/-- The query whose rows are counted: without a page, which would cut the count off, and without an
order, which does not change it. -/
def counted (q : Select) : Select :=
  { q with limit := none, offset := none, order := [] }

end Select

/-- The query with the predicate of one more condition.  The column is looked up first, so that an
unknown field is the error even where the operator is not supported either. -/
def narrow (s : Source) (operators : List Operator) (q : Select) (c : Condition) :
    Except Error Select := do
  let column ← s.resolve c.field
  if operators.contains c.operator then
    let predicate ← Predicate.of c.field c.operator column c.value
    return { q with predicates := q.predicates ++ [predicate] }
  else .error (.notAmong operators c.operator)

/-- The backend of queries of a database. -/
def backend (s : Source) (operators : List Operator) : Backend Select where
  supported := operators
  narrow := narrow s operators
  paginate := Select.paginate

end UrlFilter.Relational
