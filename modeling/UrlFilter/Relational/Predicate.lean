import UrlFilter.Relational.Schema

namespace UrlFilter.Relational

/-!
# Predicates

What a condition asks of the rows of a database: a relation between a column and a value.

* `Operand`, `Predicate` — what a query asks of its rows.
* `Predicate.of` — the predicate that a condition makes.

The queries are built by a toolkit whose columns answer to operators.  The predicates below are what
its documentation says of these, rule by rule.

* `=` and `!=` with an absent value are `IS NULL` and `IS NOT NULL` (`Predicate.equality`), as
  nothing is ever equal to an absent value.
* A yes or no is a constant of the query and no bound value (`Predicate.constant?`).  `=`, `!=` and
  `IS` take constants; the orders and the patterns refuse them (`Predicate.ordering`).
* `IN` takes a sequence that is no text and binds its items, and its negation is `NOT IN`
  (`Predicate.choices`).
* An operator on arrays that is given by its sign binds the list on its right (`Predicate.array`).
* A function takes its arguments as they are, and an absent one as `NULL` (`Predicate.search`).

Everything else, such as which operator asks for which relation and which values `IS` accepts, is up
to the operators themselves (`Predicate.of`).
-/

/-- A relation between two operands.  Each one is a sign or a word of the query language; those on
arrays and the one of searches exist in some databases only. -/
inductive Relation where
  | eq | ne | gt | ge | lt | le
  | like | ilike
  | among | notAmong
  | is | isNot
  | contains | containedBy | overlaps | finds
  deriving DecidableEq, Repr

/-- The name that a relation has in a query that has been built.  The relations that are given by
their signs are named by these. -/
def Relation.name : Relation → String
  | eq => "eq"
  | ne => "ne"
  | gt => "gt"
  | ge => "ge"
  | lt => "lt"
  | le => "le"
  | like => "like_op"
  | ilike => "ilike_op"
  | among => "in_op"
  | notAmong => "not_in_op"
  | is => "is"
  | isNot => "is_not"
  | contains => "@>"
  | containedBy => "<@"
  | overlaps => "&&"
  | finds => "@@"

/-- What a relation is asked of: a column, a value, a constant, or a function of such.  Values are
bound: they are sent beside the query and never become a part of its text. -/
inductive Operand where
  | column (c : Column)
  | bind (v : Value)
  | null
  | bool (b : Bool)
  | call (function : String) (argument : Operand)
  deriving Repr

/-- A relation of two operands.  A query asks its rows for several of them at once. -/
structure Predicate where
  relation : Relation
  left : Operand
  right : Operand
  deriving Repr

namespace Predicate

/-! ### Operands -/

/-- The constant for an absent value or for a yes or no: these two kinds of values are written into
a query and not bound. -/
def constant? : Value → Option Operand
  | .null => some .null
  | .bool b => some (.bool b)
  | _ => none

/-- A value as the argument of a function.  There a yes or no is bound like other values, and only
an absent one is a constant. -/
def argument : Value → Operand
  | .null => .null
  | v => .bind v

/-- The values to choose from.  The toolkit takes anything that can be gone through, but a text,
which would be gone through character by character. -/
def choices (v : Value) : Except Error Value :=
  if v.asText?.isSome then .error .badOperand
  else
    match v.elements? with
    | some items => .ok (.list items)
    | none => .error .badOperand

/-- The values met in a value as a list.  Here a text does count as its characters, since the
operators on arrays make the list themselves. -/
def array (v : Value) : Except Error Value :=
  match v.elements? with
  | some items => .ok (.list items)
  | none => .error (.noResult .kindMismatch)

/-! ### Kinds of predicates -/

/-- Equality or its opposite.  With an absent value it is the relation that asks for absence, and a
yes or no stays a constant to be equal to. -/
def equality (plain absent : Relation) (column : Column) : Value → Predicate
  | .null => ⟨absent, .column column, .null⟩
  | v => ⟨plain, .column column, (constant? v).getD (.bind v)⟩

/-- A relation that takes no constants: the toolkit refuses to order by one, or to match one with a
pattern, before there is any query. -/
def ordering (relation : Relation) (column : Column) (v : Value) : Except Error Predicate :=
  if (constant? v).isSome then .error .badOperand else .ok ⟨relation, .column column, .bind v⟩

/-- A search in the text of a column, with a function that reads the words of the search.  Both
sides are calls of functions of the database, which the query does not look into. -/
def search (function : String) (column : Column) (v : Value) : Predicate :=
  ⟨.finds, .call "to_tsvector" (.column column), .call function (argument v)⟩

/-- The predicate of an operator between a column, known by some name, and a value.  `is` takes no
values but an absence and a yes or no, and says so under the name of the column; `between` stands
for two bounds and makes no predicate of its own. -/
def of (name : String) (op : Operator) (column : Column) (v : Value) : Except Error Predicate :=
  match op with
  | .eq => .ok (equality .eq .is column v)
  | .neq => .ok (equality .ne .isNot column v)
  | .gt => ordering .gt column v
  | .gte => ordering .ge column v
  | .lt => ordering .lt column v
  | .lte => ordering .le column v
  | .like => ordering .like column v
  | .ilike => ordering .ilike column v
  | .among => do return ⟨.among, .column column, .bind (← choices v)⟩
  | .notAmong => do return ⟨.notAmong, .column column, .bind (← choices v)⟩
  | .is =>
    match constant? v with
    | some operand => .ok ⟨.is, .column column, operand⟩
    | none => .error (.rejected name v .bool)
  | .isNull => .ok ⟨if v.isTrue then .is else .isNot, .column column, .null⟩
  | .contains => do return ⟨.contains, .column column, .bind (← array v)⟩
  | .containedBy => do return ⟨.containedBy, .column column, .bind (← array v)⟩
  | .overlaps => do return ⟨.overlaps, .column column, .bind (← array v)⟩
  | .search => .ok (search "to_tsquery" column v)
  | .plainSearch => .ok (search "plainto_tsquery" column v)
  | .phraseSearch => .ok (search "phraseto_tsquery" column v)
  | .between => .error (.notAmong Operator.wire op)

end Predicate

end UrlFilter.Relational
