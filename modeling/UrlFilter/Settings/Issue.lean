namespace UrlFilter.Settings

/-!
# Issues with settings

* `Issue` — what is wrong with a setting, and where.
* `Checked` — a value, or all issues that stand in its way; combining checked values keeps the
  issues of all of them, in order.
-/

/-- What is wrong with a setting.  All of them can be mended by other settings. -/
inductive Fault where
  | missing
  | textNeeded
  | boolNeeded
  | boolUnreadable
  | intNeeded
  | intUnreadable
  | intTooLong
  | fractional
  | notFinite
  | notListed
  | notLiteral
  | notAbove
  | below
  | supplierNeeded
  | sequenceNeeded
  | rule (message : String)
  deriving DecidableEq, Repr

/-- The published code of a fault.  The codes are those that a client of the library sees. -/
def Fault.code : Fault → String
  | missing => "missing"
  | textNeeded => "string_type"
  | boolNeeded => "bool_type"
  | boolUnreadable => "bool_parsing"
  | intNeeded => "int_type"
  | intUnreadable => "int_parsing"
  | intTooLong => "int_parsing_size"
  | fractional => "int_from_float"
  | notFinite => "finite_number"
  | notListed => "enum"
  | notLiteral => "literal_error"
  | notAbove => "greater_than"
  | below => "greater_than_equal"
  | supplierNeeded => "callable_type"
  | sequenceNeeded => "tuple_type"
  | rule _ => "value_error"

/-- A step on the way to a setting: a name, or a place in a list.  The path to an item of a list has
two steps. -/
inductive Step where
  | name (s : String)
  | place (n : Nat)
  deriving DecidableEq, Repr

/-- A fault and the setting it is in.  A rule that several settings break together has an empty
path. -/
structure Issue where
  path : List Step
  fault : Fault
  deriving DecidableEq, Repr

/-- The text that comes with an issue, if it is a broken rule.  The words of all other issues follow
from their codes. -/
def Issue.message? (i : Issue) : Option String :=
  match i.fault with
  | .rule message => some ("Value error, " ++ message)
  | _ => none

/-- A value, or the issues that stand in its way.  All of them are kept, and not only the first. -/
abbrev Checked (α : Type) := Except (List Issue) α

namespace Checked

/-- The issues of a checked value.  A value has none. -/
def issues {α : Type} : Checked α → List Issue
  | .ok _ => []
  | .error found => found

/-- Applies a checked function to a checked value; the issues of both are kept.  So the issues of
all settings are told at once. -/
def app {α β : Type} (f : Checked (α → β)) (x : Checked α) : Checked β :=
  match f, x with
  | .ok g, .ok a => .ok (g a)
  | f, x => .error (f.issues ++ x.issues)

/-- The values of a list, each checked with its place; the issues of all are kept.  The places are
counted from the given one. -/
def traverse {α β : Type} (check : Nat → α → Checked β) : Nat → List α → Checked (List β)
  | _, [] => .ok []
  | n, a :: as => app (app (.ok List.cons) (check n a)) (traverse check (n + 1) as)

end Checked

end UrlFilter.Settings
