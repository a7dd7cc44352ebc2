import UrlFilter.Error
import UrlFilter.Field.Basic

namespace UrlFilter

/-!
# Filters

* `Filter` — a field, an operator and a value.
* `Filter.of` — a filter of given parts; the value of a range becomes its two bounds.
* `Filter.ofField` — a filter of a field, by default with the operator and the value of the field.
* `Value.isUnset`, `Value.isEmpty` — values that are not written, and values that narrow nothing.
-/

namespace Value

/-- The empty text.  A text of blanks is not empty. -/
def isEmptyText : Value → Bool
  | text s => s.isEmpty
  | _ => false

/-- There is nothing to write: an absent value, an empty text or a range without bounds.  A range
with one bound is something to write, and so is an empty list. -/
def isUnset (v : Value) : Bool :=
  v.isNull || v.isEmptyText ||
    match v.tuple? with
    | some [lower, upper] => lower.isNull && upper.isNull
    | _ => false

/-- The value narrows nothing: it is not set, or an empty list.  A condition on no values at all is
not made, though `among` no values would hold of nothing. -/
def isEmpty (v : Value) : Bool :=
  v.isUnset ||
    match v with
    | list items => items.isEmpty
    | _ => false

/-- The range of at most two bounds; a bound that is not given is absent.  The lower bound comes
first. -/
def rangeOf? : List Value → Option Value
  | [] => some (range null null)
  | [lower] => some (range lower null)
  | [lower, upper] => some (range lower upper)
  | _ => none

/-- The two bounds met in a value.  A value that is not a collection has none, and a collection of
any other size has the wrong number of them. -/
def bounds? (v : Value) : Except Error (Value × Value) :=
  match v.elements? with
  | some [lower, upper] => .ok (lower, upper)
  | some _ => .error .boundCount
  | none => .error (.noResult .kindMismatch)

end Value

/-- A field, an operator and a value.  The settings of the field may be unknown.  The identifier
tells filters of one field apart in a form; two filters with different ones may be equal. -/
structure Filter where
  field : String
  operator : Operator
  value : Value
  config : Option Field
  id : String
  deriving Repr

namespace Filter

/-- The value of a filter: a tuple of bounds becomes a range.  Only a range filter changes its
value, and a list of two items is left as it is. -/
def valueFor (op : Operator) (v : Value) : Except Error Value :=
  match op, v.tuple? with
  | .between, some items =>
    match Value.rangeOf? items with
    | some r => .ok r
    | none => .error .badCall
  | _, _ => .ok v

/-- A filter of the given parts; without an identifier of its own it has that of the field.  There
is an error only for a range of more than two bounds. -/
def of (field : String) (op : Operator) (v : Value) (config : Option Field) (id : String) :
    Except Error Filter := do
  return ⟨field, op, ← valueFor op v, config, if id.isEmpty then field else id⟩

/-- The operator that a value names.  The symbol is taken as it stands: case and blanks count. -/
def operatorOf (v : Value) : Except Error Operator :=
  match v.asText?.bind Operator.ofSymbol? with
  | some op => .ok op
  | none => .error (.notAnOperator v)

/-- A filter of a field with an operator and a value.  The operator is not checked against those
that the field allows; that is done by `Limits.check`. -/
def ofField (f : Field) (op : Operator) (v : Value) : Except Error Filter :=
  of f.name op v (some f) ""

/-- A filter of a field with the operator and the value that it starts with.  It is what a field
that is always on begins with. -/
def start (f : Field) : Except Error Filter :=
  ofField f f.defaultOperator f.defaultValue

/-- A filter of a field with what is given of the operator and the value, and otherwise with those
that the field starts with.  A value that is absent is given nonetheless. -/
def ofGiven (f : Field) (op : Option Value) (v : Option Value) : Except Error Filter := do
  let op ← match op with
    | none | some .null => .ok f.defaultOperator
    | some name => operatorOf name
  ofField f op (v.getD f.defaultValue)

/-- The settings of the field.  A filter that was made without them cannot be checked or reset, and
makes no conditions. -/
def config? (f : Filter) : Except Error Field :=
  match f.config with
  | some field => .ok field
  | none => .error .fieldMissing

/-- The filter with the operator and the value that the field starts with.  The value is taken as it
is: a tuple of bounds is not made a range. -/
def reset (f : Filter) : Except Error Filter := do
  let field ← f.config?
  return { f with operator := field.defaultOperator, value := field.defaultValue }

/-- Two filters are equal if they have the same field, the same operator and equal values.  The
settings and the identifier do not count. -/
def equal? (f g : Filter) : Except Error Bool :=
  if f.field = g.field ∧ f.operator = g.operator then
    (f.value.equal? g.value).mapError .noResult
  else .ok false

/-- The filters of two lists are equal one by one, as far as both lists go.  The first pair that is
not equal decides. -/
def equalPairs? : List Filter → List Filter → Except Error Bool
  | f :: fs, g :: gs => do
    if ← f.equal? g then equalPairs? fs gs else .ok false
  | _, _ => .ok true

/-- Two lists of filters are equal if they are equally long and equal one by one.  The order of the
filters matters here. -/
def equalLists? (fs gs : List Filter) : Except Error Bool :=
  if fs.length = gs.length then equalPairs? fs gs else .ok false

end Filter

end UrlFilter
