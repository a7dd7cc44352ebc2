import UrlFilter.Condition

namespace UrlFilter.Relational

/-!
# Schemas

* `Column` — a column of a table.
* `Model` — a named kind of row, with attributes that are columns.
* `Source` — where the columns of a query come from: a model, or the tables of the query.
* `Source.resolve` — the column of a name.
-/

/-- A column of a table.  Two tables may have columns of one name. -/
structure Column where
  table : String
  name : String
  deriving DecidableEq, Repr

/-- The name of a column with that of its table.  It tells the columns of several tables apart. -/
def Column.fullName (c : Column) : String :=
  c.table ++ "." ++ c.name

/-- An attribute of a model: its name, its column and the kind of its values, if that is known; of a
column of lists it is the kind of the items.  Where the kind is not known, values are compared as
they are. -/
structure Attribute where
  name : String
  column : Column
  kind : Option Target
  deriving DecidableEq, Repr

/-- A named kind of row.  Filters name its attributes, and not the columns of its table. -/
structure Model where
  name : String
  table : String
  attributes : List Attribute
  deriving DecidableEq, Repr

/-- The kinds of the attributes, as far as they are known.  They are what the values of conditions
are cast to. -/
def Model.kinds (m : Model) : Condition.Kinds :=
  m.attributes.filterMap fun a => a.kind.map fun kind => (a.name, kind)

/-- A table and the names of its columns.  A query that was not built on a model has only these
names. -/
structure Table where
  name : String
  columns : List String
  deriving DecidableEq, Repr

/-- Where the columns of a query come from.  Only a model knows the kinds of its columns. -/
inductive Source where
  | model (m : Model)
  | tables (list : List Table)
  deriving DecidableEq, Repr

namespace Source

/-- The names of a source and their columns; of several columns of one name the first counts.  The
tables stand in the order of the query. -/
def columns : Source → List (String × Column)
  | model m => m.attributes.map fun a => (a.name, a.column)
  | tables list => list.flatMap fun t => t.columns.map fun c => (c, ⟨t.name, c⟩)

/-- The name of a source in messages.  A query without tables has a name all the same. -/
def name : Source → String
  | model m => m.name
  | tables [] => "<select>"
  | tables list => ", ".intercalate (list.map Table.name)

/-- The names of the tables of a source.  A model has one table. -/
def tableNames : Source → List String
  | model m => [m.table]
  | tables list => list.map Table.name

/-- The column of a name.  The error names the source and the known names that are close to the one
asked for. -/
def resolve (s : Source) (name : String) : Except Error Column :=
  match s.columns.lookup name with
  | some column => .ok column
  | none =>
    .error (.unknownField name s.name (Error.sortedNames (s.columns.map (·.1)).eraseDups))

end Source

end UrlFilter.Relational
