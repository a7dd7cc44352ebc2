import UrlFilter.Operator

namespace UrlFilter

/-!
# Kinds of fields

* `FieldKind` — what a field holds and how it is filtered.
* `FieldKind.choices` — the operators that a form offers for a kind, with their wording.
* `FieldKind.operators`, `FieldKind.defaultOperator` — the operators that a field of a kind allows
  unless told otherwise, and the one it starts with.
-/

/-- What a field holds and how it is filtered.  The kind decides which operators make sense. -/
inductive FieldKind where
  | text | number | select | multiSelect | date | dateTime | dateRange | dateTimeRange | boolean
  | radioGroup
  deriving DecidableEq, Repr

namespace FieldKind

/-- All kinds.  The order is that in which a message lists them. -/
def all : List FieldKind :=
  [text, number, select, multiSelect, date, dateTime, dateRange, dateTimeRange, boolean, radioGroup]

/-- The word that stands for a kind.  No two kinds share one. -/
def symbol : FieldKind → String
  | text => "text"
  | number => "number"
  | select => "select"
  | multiSelect => "multi_select"
  | date => "date"
  | dateTime => "datetime"
  | dateRange => "date_range"
  | dateTimeRange => "datetime_range"
  | boolean => "boolean"
  | radioGroup => "radio_group"

/-- The kind with the given symbol.  Settings name kinds in this way. -/
def ofSymbol? (s : String) : Option FieldKind :=
  all.find? fun kind => kind.symbol = s

@[simp] theorem ofSymbol?_symbol (kind : FieldKind) : ofSymbol? kind.symbol = some kind := by
  cases kind <;> rfl

/-- The value is a lower and an upper bound.  Such a field has one filter for both bounds. -/
def isRange : FieldKind → Bool
  | dateRange | dateTimeRange => true
  | _ => false

/-- The values are chosen from a list.  They have to come from somewhere, which a field
guarantees. -/
def isChoice : FieldKind → Bool
  | select | multiSelect | radioGroup => true
  | _ => false

/-! ### Operators of a kind -/

/-- The operators for moments, with their wording.  Dates are worded like dates with a time. -/
def momentChoices : List (Operator × String) :=
  [(.eq, "is"), (.gt, "after"), (.gte, "on or after"), (.lt, "before"), (.lte, "on or before")]

/-- The operators that a form offers, with their wording.  The first of them is shown first. -/
def choices : FieldKind → List (Operator × String)
  | text => [(.ilike, "contains"), (.eq, "equals"), (.neq, "not equals"), (.like, "like")]
  | number =>
    [(.eq, "is"), (.neq, "is not"), (.lt, "is less than"), (.lte, "is at most"),
      (.gt, "is greater than"), (.gte, "is at least")]
  | select => [(.eq, "is"), (.neq, "is not")]
  | multiSelect => [(.overlaps, "contains any"), (.contains, "contains all")]
  | date => momentChoices
  | dateTime => momentChoices
  | dateRange => [(.between, "between")]
  | dateTimeRange => [(.between, "between")]
  | boolean => [(.is, "is")]
  | radioGroup => [(.eq, "is")]

/-- The operators that a field allows unless told otherwise.  They are those that a form offers,
though not always in the same order. -/
def operators : FieldKind → List Operator
  | text => [.ilike, .eq, .neq, .like]
  | number => [.eq, .neq, .gt, .gte, .lt, .lte]
  | select => [.eq, .neq]
  | multiSelect => [.contains, .overlaps]
  | date => [.eq, .gt, .gte, .lt, .lte]
  | dateTime => [.eq, .gt, .gte, .lt, .lte]
  | dateRange => [.between]
  | dateTimeRange => [.between]
  | boolean => [.is]
  | radioGroup => [.eq]

/-- The operator that a field starts with unless told otherwise.  It is always among the operators
of the kind. -/
def defaultOperator : FieldKind → Operator
  | text => .ilike
  | multiSelect => .overlaps
  | dateRange => .between
  | dateTimeRange => .between
  | boolean => .is
  | _ => .eq

theorem defaultOperator_mem (kind : FieldKind) : kind.defaultOperator ∈ kind.operators := by
  cases kind <;> decide

end FieldKind

end UrlFilter
