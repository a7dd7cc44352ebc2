import UrlFilter.Filter

namespace UrlFilter

/-!
# Checking filters

* `Limits` — how long a text and a list may be.
* `Limits.check` — the first violation of one filter.
* `Limits.checkAll` — the first violation of several filters.
-/

/-- How long a text and a list may be.  The length of a text is counted in characters, and that of a
list in items. -/
structure Limits where
  valueLength : Int := 500
  listSize : Int := 100
  deriving DecidableEq, Repr

namespace Limits

/-- What is wrong with the size of a value.  An operator that is given as a value counts as its
symbol; numbers, dates and pairs have no size. -/
def sizeViolation? (limits : Limits) (field : String) (v : Value) : Option Violation :=
  match v with
  | .list items =>
    if limits.listSize < items.length then some (.listTooLarge field items.length limits.listSize)
    else none
  | v =>
    match v.asText? with
    | some s =>
      if limits.valueLength < s.length then some (.valueTooLong field s.length limits.valueLength)
      else none
    | none => none

/-- The first violation of a filter: its operator, and then the size of its value.  There is an
error, and no violation, if the filter has no configuration to ask. -/
def check (limits : Limits) (f : Filter) : Except Error (Option Violation) := do
  let field ← f.config?
  if field.allows f.operator then return limits.sizeViolation? f.field f.value
  else return some (.operatorNotAllowed f.field f.operator.symbol)

/-- The first violation of several filters.  The filters behind it are not looked at. -/
def checkAll (limits : Limits) : List Filter → Except Error (Option Violation)
  | [] => .ok none
  | f :: filters => do
    match ← limits.check f with
    | some v => return some v
    | none => limits.checkAll filters

end Limits

end UrlFilter
