import UrlFilter.Field.Basic

namespace UrlFilter

/-!
# Schemes

* `Scheme` — the fields that a URL can filter, and the parameter that groups conditions.
* `Scheme.named?` — the field of a name.
* `Scheme.fieldOf?` — the field that a parameter filters.
-/

/-- The fields that a URL can filter, and the parameter that groups conditions.  Nothing keeps two
fields from having one name, or from being read from one parameter. -/
structure Scheme where
  fields : List Field
  groupKey : String := "and"
  deriving Repr

namespace Scheme

/-- The field of a name; of several the last one.  The grouping parameter and the default filters
find fields in this way. -/
def named? (s : Scheme) (name : String) : Option Field :=
  s.fields.reverse.find? fun f => f.name == name

/-- The field whose parameter has a name of its own; of several the last one.  A field without such
a name is found by `named?` only. -/
def keyed? (s : Scheme) (key : String) : Option Field :=
  s.fields.reverse.find? fun f => f.customKey? == some key

/-- The field that a parameter filters: names of parameters come before names of fields.  So a field
can hide another whose name is its parameter. -/
def fieldOf? (s : Scheme) (key : String) : Option Field :=
  s.keyed? key <|> s.named? key

end Scheme

end UrlFilter
