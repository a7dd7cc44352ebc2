import UrlFilter.Filter
import UrlFilter.Params
import UrlFilter.Wire.Group

namespace UrlFilter

/-!
# Writing filters as parameters

* `Writing.rangeConditions` — the conditions that the bounds of a range make.
* `Writing.parameter?` — the parameter that a filter sets.
* `Writing.params` — parameters with filters.  Each filter sets the parameter of its field; ranges
  go into the grouping parameter, behind the conditions that are there already.

A filter with an integer that has too many digits cannot be written, and then nothing is.
-/

namespace Writing

/-- The condition of a bound; an absent bound makes none.  There is an error if the bound is an
integer with too many digits. -/
def boundConditions (field : String) (op : Operator) (bound : Value) :
    Except Error (List (List Char)) :=
  if bound.isNull then .ok []
  else ((Wire.condition? field op bound).map fun c => [c]).mapError .noResult

/-- The conditions that the bounds of a range make.  The lower bound comes first. -/
def rangeConditions (field : String) (v : Value) : Except Error (List (List Char)) := do
  let (lower, upper) ← v.bounds?
  let below ← boundConditions field .gte lower
  let above ← boundConditions field .lte upper
  return below ++ above

/-- What the parameter of a filter reads: a key of its own has a value alone, the name of the field
an operator and a value.  A filter without settings goes under the name of its field. -/
def entry (f : Filter) : String × Value :=
  match f.config.bind Field.customKey? with
  | some key => (key, .text (String.ofList (Wire.bareValue f.operator f.value)))
  | none => (f.field, .text (String.ofList (Wire.expression f.operator f.value)))

/-- The parameter that a filter sets, if its value can be written.  The parameter itself is defined
for every filter, which leaves the condition in one place. -/
def parameter? (f : Filter) : Except Error (String × Value) :=
  if f.value.isWritable then .ok (entry f) else .error (.noResult .tooManyDigits)

/-- The parameters that the filters set, and the conditions for the grouping parameter; filters
without a value are skipped.  A later filter replaces the value that an earlier one gave to the same
key, while conditions only gather. -/
def collect : List Filter → Params → Except Error (Params × List (List Char))
  | [], params => .ok (params, [])
  | f :: filters, params =>
    if f.value.isUnset then collect filters params
    else if f.operator = .between then do
      let own ← rangeConditions f.field f.value
      let (params, rest) ← collect filters params
      return (params, own ++ rest)
    else do
      let (key, v) ← parameter? f
      collect filters (params.insert key v)

/-- The conditions that a grouping parameter holds already.  Only a text holds conditions here; a
list of texts, as it is read from a repeated parameter, counts as none. -/
def present (v : Option Value) : List (List Char) :=
  match v.bind Value.asText? with
  | some s => Wire.splitConditions (Wire.unwrapGroup s.toList)
  | none => []

/-- Conditions in parentheses with commas between them.  This is how the parameter is written even
for a single condition. -/
def group (conditions : List (List Char)) : Value :=
  .text (String.ofList ('(' :: Wire.commaJoin conditions ++ [')']))

/-- The parameters with the filters.  Without conditions the grouping parameter stays as it is. -/
def params (groupKey : String) (filters : List Filter) (base : Params) : Except Error Params := do
  let (params, conditions) ← collect filters base
  if conditions.isEmpty then return params
  else return params.insert groupKey (group (present (params.get? groupKey) ++ conditions))

end Writing

end UrlFilter
