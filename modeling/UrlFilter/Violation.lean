import UrlFilter.Value.Basic

namespace UrlFilter

/-!
# Violations

* `Violation` — why a filter is rejected before anything is queried.
* `Violation.message` — the reason in words.
* `Violation.detail` — the reason by its parts.
-/

/-- Why a filter is rejected.  Sizes are told together with the largest size that would have been
accepted. -/
inductive Violation where
  | invalid (field : String)
  | operatorNotAllowed (field operator : String)
  | valueTooLong (field : String) (actual maximum : Int)
  | listTooLarge (field : String) (actual maximum : Int)
  deriving DecidableEq, Repr

namespace Violation

/-- The published code of a violation.  A client can tell violations apart by it. -/
def code : Violation → String
  | invalid _ => "FILTER_VIOLATION"
  | operatorNotAllowed .. => "INVALID_OPERATOR"
  | valueTooLong .. => "VALUE_TOO_LONG"
  | listTooLarge .. => "LIST_TOO_LARGE"

/-- The reason in words.  The field is named, but not the value. -/
def message : Violation → String
  | invalid field => s!"Invalid filter on '{field}'"
  | operatorNotAllowed field operator =>
    s!"Operator '{operator}' is not allowed for field '{field}'"
  | valueTooLong field actual maximum =>
    s!"Value for field '{field}' is {actual} characters long (maximum {maximum})"
  | listTooLarge field actual maximum =>
    s!"List for field '{field}' has {actual} items (maximum {maximum})"

/-- The parts of the reason.  They are named, and the size of a value is a number. -/
def parts : Violation → List (String × Value)
  | invalid field => [("field", .text field)]
  | operatorNotAllowed field operator => [("field", .text field), ("operator", .text operator)]
  | valueTooLong field actual maximum =>
    [("field", .text field), ("actual", .int actual), ("maximum", .int maximum)]
  | listTooLarge field actual maximum =>
    [("field", .text field), ("actual", .int actual), ("maximum", .int maximum)]

/-- The code, the message and the parts of a violation.  The first two are there for every
violation. -/
def detail (v : Violation) : List (String × Value) :=
  ("code", .text v.code) :: ("message", .text v.message) :: v.parts

end Violation

end UrlFilter
