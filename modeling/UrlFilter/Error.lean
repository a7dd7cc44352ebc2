import UrlFilter.Settings.Issue
import UrlFilter.Text.Similarity
import UrlFilter.Value.Cast
import UrlFilter.Value.Equality
import UrlFilter.Violation

namespace UrlFilter

open UrlFilter.Number UrlFilter.Text

/-!
# Errors

* `Error` — the reasons why a request cannot be answered.
* `Error.unknownField`, `Error.unsupported` — names that are not known, with names that are close.
* `Error.rejected` — a value that has no counterpart of a kind.
* `Error.message?` — the reason in words, where there are any.
* `Error.detail?` — the reason by its parts.
-/

/-- The reasons why a request cannot be answered.  Each carries what its message needs, so that the
message can be made later and nowhere else. -/
inductive Error where
  /-- There is no backend to query. -/
  | noBackend
  /-- Parameters cannot be read without fields. -/
  | noFields
  /-- Rows cannot be counted without a connection. -/
  | noSession
  /-- A filter is rejected.  The violation tells which one and why. -/
  | violation (v : Violation)
  /-- A value has no counterpart of the kind that a field needs.  The message quotes the value. -/
  | badValue (field : String) (value : Value) (target : Target)
  /-- A source has no such field.  Names that are close are offered instead. -/
  | fieldNotFound (field source : String) (close : List String)
  /-- A backend does not know an operator.  Symbols that are close are offered instead. -/
  | operatorNotSupported (operator : String) (supported close : List String)
  /-- A value names no operator.  It is given where a symbol is expected. -/
  | notAnOperator (value : Value)
  /-- A value names no kind of field. -/
  | notAKind (value : Value)
  /-- A cutoff does not lie between zero and one.  Similarities do, so that no other cutoff makes
  sense. -/
  | badCutoff (cutoff : Binary)
  /-- There is no page before the first.  Pages are counted from one. -/
  | pageBelowOne (page : Int)
  /-- A page has at least one row. -/
  | limitBelowOne (limit : Int)
  /-- A range has exactly two bounds.  Other collections are no ranges. -/
  | boundCount
  /-- Something is given too many values, or too few. -/
  | badCall
  /-- An operation is not defined for its values.  The fault tells in which way. -/
  | noResult (fault : Fault)
  /-- A value cannot be an operand of a predicate. -/
  | badOperand
  /-- A number is too large to divide. -/
  | tooLarge
  /-- A filter has no field to consult.  It was made from its parts alone. -/
  | fieldMissing
  /-- Settings do not fit.  All issues are told at once. -/
  | settings (issues : List Settings.Issue)
  deriving Repr

namespace Error

/-- A value without a counterpart of a kind.  The error tells the value, and where that cannot be
written the digits are the error instead. -/
def rejected (field : String) (value : Value) (target : Target) : Error :=
  if value.isWritable then .badValue field value target else .noResult .tooManyDigits

/-- Of a value that can be written the error tells all that it should: the value, the field and the
kind. -/
theorem rejected_of_isWritable {value : Value} (h : value.isWritable = true) (field : String)
    (target : Target) : rejected field value target = .badValue field value target :=
  if_pos h

/-- A field that a source does not have, with the names that are close to it.  A field that is close
enough may well be the one that was meant. -/
def unknownField (field source : String) (available : List String) : Error :=
  .fieldNotFound field source (suggestions field available)

/-- A field that a source does not have, with the names whose similarity reaches a cutoff.  A cutoff
that is out of range is an error of its own, and takes the place of the other. -/
def unknownFieldWithin (cutoff : Binary) (field source : String) (available : List String) :
    Error :=
  match closest? cutoff field available with
  | some close => .fieldNotFound field source close
  | none => .badCutoff cutoff

/-- An operator that a backend does not know, with the symbols that are close to it.  The symbols of
the backend are told as well. -/
def unsupported (operator : String) (supported : List String) : Error :=
  .operatorNotSupported operator supported (suggestions operator supported)

/-- Names in the order of their characters.  This makes messages independent of the order in which
names are declared. -/
def sortedNames (names : List String) : List String :=
  names.mergeSort fun s t => decide (s ≤ t)

/-- The symbols of operators, each once and in order.  Two operators never share a symbol, but a
list may hold one twice. -/
def symbolsOf (operators : List Operator) : List String :=
  sortedNames (operators.map Operator.symbol).eraseDups

/-- An operator that is not among those of a backend.  Backends of all kinds report it in the same
way. -/
def notAmong (operators : List Operator) (op : Operator) : Error :=
  unsupported op.symbol (symbolsOf operators)

/-- A question that offers the names that are close.  Without such names nothing is added to a
message. -/
def offer (close : List String) : String :=
  if close.isEmpty then "" else " Did you mean: " ++ ", ".intercalate close ++ "?"

/-- What is said where there is no backend to query. -/
def noBackendMessage : String :=
  "QueryBuilder requires a FilterAdapter"

/-- What is said where parameters are to be read without fields. -/
def noFieldsMessage : String :=
  "QueryBuilder.apply() needs 'config' when given a parameter mapping"

/-- What is said where rows are to be counted without a connection. -/
def noSessionMessage : String :=
  "SQLAlchemyAdapter.count() requires a Session or Connection"

/-- The reason in words.  Those without words of their own are reported by the operation that
failed.  A value appears quoted, and where it could not be written there is another error in the
first place. -/
def message? : Error → Option String
  | noBackend => some noBackendMessage
  | noFields => some noFieldsMessage
  | noSession => some noSessionMessage
  | violation v => some v.message
  | badValue field value target =>
    some s!"Cannot cast {value.quoted} to {target.name} for field '{field}'"
  | fieldNotFound field source close =>
    some (s!"Unknown field '{field}' on '{source}'." ++ offer close)
  | operatorNotSupported operator _ close =>
    some (s!"Operator '{operator}' is not supported by this backend." ++ offer close)
  | notAnOperator value => some s!"{value.quoted} is not a valid Operator"
  | notAKind value => some s!"{value.quoted} is not a valid FilterType"
  | badCutoff cutoff => some s!"cutoff must be in [0.0, 1.0]: {String.ofList cutoff.text}"
  | pageBelowOne page => some s!"page must be >= 1, got {page}"
  | limitBelowOne limit => some s!"limit must be >= 1, got {limit}"
  | _ => none

/-- Texts as a list of values.  They appear in a detail in the order given. -/
def texts (names : List String) : Value :=
  .list (names.map .text)

/-- The parts of an error in the setup of a query.  Nothing but the message tells such errors
apart. -/
def setup (message : String) : List (String × Value) :=
  [("error", .text "ConfigurationError"), ("message", .text message)]

/-- The parts of the reason; only the errors that a user can mend have them.  The supported symbols
are in order there. -/
def detail? : Error → Option (List (String × Value))
  | noBackend => some (setup noBackendMessage)
  | noFields => some (setup noFieldsMessage)
  | noSession => some (setup noSessionMessage)
  | violation v => some (("error", .text "FILTER_VALIDATION_ERROR") :: v.detail)
  | badValue field value target =>
    some [("error", .text "TYPE_CAST_ERROR"), ("field", .text field), ("value", .text value.quoted),
      ("target", .text target.name)]
  | fieldNotFound field source close =>
    some [("error", .text "FIELD_NOT_FOUND"), ("field", .text field), ("source", .text source),
      ("suggestions", texts close)]
  | operatorNotSupported operator supported close =>
    some [("error", .text "OPERATOR_NOT_SUPPORTED"), ("operator", .text operator),
      ("suggestions", texts close), ("supported", texts (sortedNames supported))]
  | _ => none

end Error

end UrlFilter
