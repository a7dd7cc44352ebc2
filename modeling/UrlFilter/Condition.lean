import UrlFilter.Filter
import UrlFilter.Value.Cast

namespace UrlFilter

/-!
# Conditions

* `Condition` — a column, an operator and a value, as a backend sees them.
* `Condition.ofFilters` — the conditions of filters.
* `Condition.castAll` — conditions whose values have the kinds of their columns.
-/

/-- A column, an operator and a value.  The field is the name of a column here, and no longer that
of a parameter. -/
structure Condition where
  field : String
  operator : Operator
  value : Value
  deriving Repr

namespace Condition

/-! ### From filters -/

/-- The value is one that the operator can be asked with: `is` takes a yes or no only.  A filter of
another value with `is` narrows nothing.  The empty value is asked for by `isNull`, and its operand
is not restricted here. -/
def hasPredicate (op : Operator) (v : Value) : Bool :=
  op != .is || v.isBool

/-- The pattern of the texts that hold a text, unless a backend has patterns of its own.  Wildcards
in the text keep their meaning: they are not escaped. -/
def substringPattern (s : String) : String :=
  "%" ++ s ++ "%"

/-- The value that a backend compares with: the text of a pattern search becomes the pattern that
the backend has for it.  Any other value stays as it is, and so does that of every operator that is
not a pattern search. -/
def operand (pattern : String → String) (op : Operator) (v : Value) : Value :=
  if op.isPattern then
    match v.asText? with
    | some s => .text (pattern s)
    | none => v
  else v

/-- The conditions of a filter that narrows something; a range makes one for each of its bounds.
Bounds that are not given make none, so that an open range makes one condition.  There is an error
if the filter has no configuration or its range has no two bounds. -/
def ofSet (pattern : String → String) (f : Filter) : Except Error (List Condition) := do
  let column := (← f.config?).column
  if f.operator = .between then
    let (lower, upper) ← f.value.bounds?
    return (if lower.isNull then [] else [⟨column, .gte, lower⟩])
      ++ (if upper.isNull then [] else [⟨column, .lte, upper⟩])
  else return [⟨column, f.operator, operand pattern f.operator f.value⟩]

/-- The conditions of a filter; there are none if it narrows nothing.  This is asked first: a filter
without a value is not looked at any further. -/
def ofFilter (pattern : String → String) (f : Filter) : Except Error (List Condition) :=
  if f.value.isEmpty || !hasPredicate f.operator f.value then .ok [] else ofSet pattern f

/-- A name is among those allowed, if only some are.  Without a list all names are. -/
def allowed (names : Option (List String)) (name : String) : Bool :=
  names.all fun list => list.contains name

/-- The conditions of the filters on allowed fields.  They stand in the order of the filters, and if
those of a filter cannot be made, its error is the error of all. -/
def ofFilters (pattern : String → String) (names : Option (List String)) (filters : List Filter) :
    Except Error (List Condition) := do
  let lists ← (filters.filter fun f => allowed names f.field).mapM (ofFilter pattern)
  return lists.flatten

/-! ### Casts -/

/-- The operators whose value has a kind of its own, whatever the column holds.  A pattern and a
search are texts, and the others are asked with a yes or no. -/
def keepsValue : Operator → Bool
  | .like | .ilike | .is | .isNull | .search | .plainSearch | .phraseSearch => true
  | _ => false

/-- The condition with its value cast to a kind.  The error names the column and the item that could
not be cast. -/
def cast (target : Target) (c : Condition) : Except Error Condition :=
  if keepsValue c.operator then .ok c
  else
    match target.cast c.value with
    | .ok v => .ok { c with value := v }
    | .error v => .error (.rejected c.field v target)

/-- The kinds of columns by their names.  A column that is not listed keeps the values of its
conditions. -/
abbrev Kinds := List (String × Target)

/-- The conditions with their values cast to the kinds of their columns, as far as these are known.
The first value that cannot be cast is the error of all. -/
def castAll (kinds : Kinds) (conditions : List Condition) : Except Error (List Condition) :=
  conditions.mapM fun c =>
    match kinds.lookup c.field with
    | some target => cast target c
    | none => .ok c

end Condition

end UrlFilter
