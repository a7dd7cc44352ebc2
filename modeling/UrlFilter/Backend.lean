import UrlFilter.Condition
import UrlFilter.Reading

namespace UrlFilter

/-!
# Backends

* `Backend` — how conditions narrow queries of some type.
* `Backend.apply` — narrows a query by filters.
* `Backend.applyParams` — narrows a query by the filters that parameters make.
* `Backend.applyRaw` — narrows a query by parameters whose keys are columns.
-/

/-- How conditions narrow queries: the operators that conditions may have, the query with one more
condition, the query with a page, and the pattern that a search for a text asks with.  Rows in
memory and statements for a database are narrowed by the same calls; what holds of every backend is
proved for an arbitrary one. -/
structure Backend (Query : Type) where
  supported : List Operator
  narrow : Query → Condition → Except Error Query
  paginate : Query → Option Int → Option Int → Query
  pattern : String → String := Condition.substringPattern

namespace Backend

variable {Query : Type}

/-- Conditions may have the operator.  A query with another operator is refused by `checkSupported`,
while `applyRaw` leaves such a condition out. -/
def supports (b : Backend Query) (op : Operator) : Bool :=
  b.supported.contains op

/-- A backend that must be there, or else the error that there is none. -/
def required (b : Option (Backend Query)) : Except Error (Backend Query) :=
  match b with
  | some b => .ok b
  | none => .error .noBackend

/-- All operators of the conditions are supported.  The error names the first operator that is not,
together with those that are; nothing is narrowed before the check. -/
def checkSupported (b : Backend Query) (conditions : List Condition) : Except Error Unit :=
  match conditions.find? fun c => !b.supports c.operator with
  | some c => .error (.notAmong b.supported c.operator)
  | none => .ok ()

/-- Narrows a query by conditions, after a cast to the kinds of their columns.  All casts are made
before the first condition narrows the query, so that a value that cannot be cast leaves the query
as it was. -/
def narrowAll (b : Backend Query) (q : Query) (kinds : Option Condition.Kinds)
    (conditions : List Condition) : Except Error Query := do
  let conditions ← Condition.castAll (kinds.getD []) conditions
  conditions.foldlM b.narrow q

/-! ### Filters -/

/-- Narrows a query by the filters on allowed fields.  Filters on other fields are left out without
an error.  Filters that narrow nothing make no conditions, so that their operators are not
checked. -/
def apply (b : Backend Query) (q : Query) (allowed : Option (List String))
    (kinds : Option Condition.Kinds) (filters : List Filter) : Except Error Query := do
  let conditions ← Condition.ofFilters b.pattern allowed filters
  b.checkSupported conditions
  b.narrowAll q kinds conditions

/-- Narrows a query by the filters that parameters make.  The fields decide which parameters are
read; without fields there is an error. -/
def applyParams (b : Backend Query) (q : Query) (allowed : Option (List String))
    (kinds : Option Condition.Kinds) (scheme : Option Scheme) (params : Params) :
    Except Error Query := do
  match scheme with
  | some s => b.apply q allowed kinds (← s.read params).filters
  | none => .error .noFields

/-! ### Parameters without fields -/

/-- The values of a parameter: the items of a list, or else the value itself.  A parameter that is
repeated arrives as a list. -/
def rawValues (v : Value) : List Value :=
  v.sequence?.getD [v]

/-- The column and the text that a grouped condition asks for.  The value loses its quotes here, and
the operator stands in front of it again, so that a grouped condition goes the way of a parameter
from here on. -/
def groupedEntry? (condition : List Char) : Option (String × Value) := do
  let parts ← Wire.readCondition? condition
  let op ← Operator.ofSymbol? parts.symbol
  if op.onWire then
    let text := parts.symbol.toList ++ '.' :: Wire.unquoteItem parts.value
    some (parts.field, .text (String.ofList text))
  else none

/-- The columns and the texts that a parameter asks for: the last value of a column, and all
conditions of the grouping parameter, whose values are taken to have plain texts.  The field is the
name of a column, as no configuration is consulted. -/
def rawEntries (groupKey : String) (entry : String × Value) : List (String × Value) :=
  let values := rawValues entry.2
  if entry.1 = groupKey then
    values.flatMap fun chunk =>
      (Wire.splitConditions (Wire.unwrapGroup chunk.shown.toList)).filterMap groupedEntry?
  else values.getLast?.toList.map fun v => (entry.1, v)

/-- The condition that a column and a text make, if it narrows something.  It does not if its text
has no operator that may stand in a URL, if the backend does not know the operator, if the value is
empty, or if a yes or no is asked for and none is given. -/
def rawCondition? (pattern : String → String) (supports : Operator → Bool) (column : String)
    (raw : Value) : Option Condition := do
  let (op, v) ← Wire.read? raw
  if supports op && !v.isEmpty && Condition.hasPredicate op v then
    some ⟨column, op, Condition.operand pattern op v⟩
  else none

/-- The conditions that parameters make on allowed columns.  They stand in the order of the
parameters, and within the grouping parameter in the order of the text. -/
def rawConditions (pattern : String → String) (supports : Operator → Bool) (groupKey : String)
    (allowed : Option (List String)) (params : Params) : List Condition :=
  (params.entries.flatMap (rawEntries groupKey)).filterMap fun e =>
    if Condition.allowed allowed e.1 then rawCondition? pattern supports e.1 e.2 else none

/-- Narrows a query by parameters whose keys are columns.  What cannot be read is left out; only a
cast and the backend itself can give an error. -/
def applyRaw (b : Backend Query) (q : Query) (allowed : Option (List String))
    (kinds : Option Condition.Kinds) (groupKey : String) (params : Params) : Except Error Query :=
  b.narrowAll q kinds (rawConditions b.pattern b.supports groupKey allowed params)

end Backend

end UrlFilter
