import UrlFilter.Filter
import UrlFilter.Params
import UrlFilter.QueryString
import UrlFilter.Scheme
import UrlFilter.Wire.Group

namespace UrlFilter

/-!
# Reading filters from parameters

* `Reading` — the filters of a URL and the parameters that filter nothing.
* `Scheme.read` — reads parameters.  Each parameter of a field makes a filter; a range may also
  come from the grouping parameter, and a field that is always on has a filter in any case.
* `Scheme.readQuery` — reads a query string.

Reading is lenient: what names no operator is the value of the operator that the field starts with.
-/

/-- The filters of a URL and the parameters that filter nothing.  What remains is for others to
read: pages, and whatever the application puts into its URLs. -/
structure Reading where
  filters : List Filter
  remaining : Params
  deriving Repr

namespace Reading

/-- The values of a parameter: the items of a list, none of an absent value.  A parameter that is
repeated has the values of all its occurrences. -/
def values (v : Value) : List Value :=
  match v with
  | .null => []
  | v => v.sequence?.getD [v]

/-! ### Ranges -/

/-- One end of a range.  Either may be left open. -/
inductive End where
  | lower | upper
  deriving DecidableEq, Repr

/-- The end that an operator bounds.  A strict bound is no end of a range. -/
def End.ofOperator? : Operator → Option End
  | .gte => some .lower
  | .lte => some .upper
  | _ => none

/-- One end of a range and the value there.  The value is a text as it stands in the URL. -/
structure Bound where
  side : End
  value : Value
  deriving Repr

/-- The last value that bounds one end.  Without one this end is open. -/
def lastAt (side : End) (bounds : List Bound) : Value :=
  (((bounds.filter fun b => b.side == side).getLast?).map Bound.value).getD .null

/-- The filter of a range field with the last bounds at either end, if there are any.  The filter is
named after the field, so that there is one for each field. -/
def rangeFilter? (f : Field) (bounds : List Bound) : Option Filter :=
  if bounds.isEmpty then none
  else
    some ⟨f.name, .between, .range (lastAt .lower bounds) (lastAt .upper bounds), some f, f.name⟩

/-- The bound that a parameter asks for.  A value without an operator asks for none, and neither
does one with another operator. -/
def bound? (v : Value) : Option Bound := do
  let (op, value) ← Wire.read? v
  return ⟨← End.ofOperator? op, value⟩

/-! ### Parameters of fields -/

/-- The operator and the value that a parameter asks for.  A text without an operator is the value
of the operator that the field starts with, in the form that this operator takes; any other value is
taken as it is. -/
def operatorAndValue (f : Field) (raw : Value) : Operator × Value :=
  match Wire.read? raw with
  | some asked => asked
  | none =>
    if raw.asText?.isSome && f.defaultOperator != .between then Wire.shape f.defaultOperator raw
    else (f.defaultOperator, raw)

/-- The filter that the parameter of a field makes: a range field takes its bounds from all values
of the parameter, any other field its last value.  A range field whose parameter holds no bound has
no filter. -/
def direct? (f : Field) (raw : Value) : Except Error (Option Filter) :=
  if f.kind.isRange then .ok (rangeFilter? f ((values raw).filterMap bound?))
  else
    match (values raw).getLast? with
    | some v => do
      let (op, value) := operatorAndValue f v
      return some (← Filter.ofField f op value)
    | none => .ok none

/-- The filters of the parameters of fields in order, where only the first parameter of a field
counts, and the names of these fields.  A field counts as seen as soon as it has a parameter, even
if that makes no filter. -/
def directFrom (s : Scheme) (seen : List String) :
    List (String × Value) → Except Error (List Filter × List String)
  | [] => .ok ([], seen)
  | (key, raw) :: entries =>
    match s.fieldOf? key with
    | none => directFrom s seen entries
    | some f =>
      if seen.contains f.name then directFrom s seen entries
      else do
        let filter ← direct? f raw
        let (filters, seen) ← directFrom s (f.name :: seen) entries
        return (filter.toList ++ filters, seen)

/-! ### The grouping parameter -/

/-- The conditions of a grouping parameter, of which there may be several values.  The text of each
value is cut on its own, so that brackets do not reach from one to the next.  A value that is no
text counts with its plain text, which it is taken to have. -/
def conditions (raw : Value) : List (List Char) :=
  (values raw).flatMap fun chunk => Wire.splitConditions (Wire.unwrapGroup chunk.shown.toList)

/-- The range field and the bound that a condition asks for.  A condition on another kind of field,
or with an operator that bounds nothing, is not one. -/
def groupedBound? (s : Scheme) (condition : List Char) : Option (Field × Bound) := do
  let parts ← Wire.readCondition? condition
  let f ← s.named? parts.field
  let op ← Operator.ofSymbol? parts.symbol
  let side ← End.ofOperator? op
  if f.kind.isRange then
    some (f, ⟨side, .text (String.ofList (Wire.unquoteItem parts.value))⟩)
  else none

/-- The filters of the ranges that the conditions bound, in the order of their first bounds.  The
last bound at either end counts, as it does for parameters. -/
def groupedFilters (s : Scheme) (conditions : List (List Char)) : List Filter :=
  let bounds := conditions.filterMap (groupedBound? s)
  let names := (bounds.map fun b => b.1.name).eraseDups
  names.filterMap fun name => do
    let f ← s.named? name
    rangeFilter? f ((bounds.filter fun b => b.1.name == name).map (·.2))

/-- The conditions that bound no range, as a group.  Their texts are those that were read, without
the blanks around them. -/
def residual? (s : Scheme) (conditions : List (List Char)) : Option Value :=
  let rest := conditions.filter fun c => (groupedBound? s c).isNone
  if rest.isEmpty then none
  else some (.text (String.ofList ('(' :: Wire.commaJoin rest ++ [')'])))

/-- The filters of ranges that no parameter has asked for yet, and the names of the fields that have
filters now.  The parameter of a field comes before the grouping parameter. -/
def unseen (seen : List String) : List Filter → List Filter × List String
  | [] => ([], seen)
  | f :: filters =>
    if seen.contains f.field then unseen seen filters
    else
      let (rest, seen) := unseen (f.field :: seen) filters
      (f :: rest, seen)

/-! ### Fields that are always on -/

/-- The filters of the fields that are always on and have no filter yet.  There is an error if the
value that such a field starts with makes no filter. -/
def alwaysOn (s : Scheme) (seen : List String) : Except Error (List Filter) :=
  (s.fields.filter fun f => f.alwaysOn && !seen.contains f.name).mapM Filter.start

end Reading

namespace Scheme

/-- The parameters with what is left of the grouping parameter at their end, and the conditions of
that parameter.  The place at the end is that of a key that was removed and then given a value
again. -/
def withoutGroup (s : Scheme) (params : Params) : Params × List (List Char) :=
  match params.get? s.groupKey with
  | none => (params, [])
  | some raw =>
    let conditions := Reading.conditions raw
    let rest := params.erase s.groupKey
    match Reading.residual? s conditions with
    | some v => (rest.insert s.groupKey v, conditions)
    | none => (rest, conditions)

/-- Reads parameters.  First come the filters of parameters, then those of the grouping parameter
and last those of fields that are always on. -/
def read (s : Scheme) (params : Params) : Except Error Reading := do
  let (params, conditions) := s.withoutGroup params
  let (direct, seen) ← Reading.directFrom s [] params.entries
  let (grouped, seen) := Reading.unseen seen (Reading.groupedFilters s conditions)
  let always ← Reading.alwaysOn s seen
  return ⟨direct ++ grouped ++ always, params.filterKeys fun key => (s.fieldOf? key).isNone⟩

/-- Reads a query string.  It is decoded first, so that an encoded comma separates conditions like
any other. -/
def readQuery (s : Scheme) (query : String) : Except Error Reading :=
  s.read (QueryString.toParams query.toList)

end Scheme

end UrlFilter
