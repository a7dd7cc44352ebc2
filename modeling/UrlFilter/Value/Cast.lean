import UrlFilter.Value.Shown

namespace UrlFilter

open UrlFilter.Text UrlFilter.Number UrlFilter.Calendar

/-!
# Casts

The values of a URL are texts.  A cast gives them the kind of the field that they are compared
with.

* `Target` — the kind to cast to.
* `Target.castAtom?` — casts one value.
* `Target.cast` — casts the items of a list one by one, and leaves the absent value alone; the
  error is the value that has no counterpart.
-/

/-- The kind that a cast gives to values; those it does not know leave values as they are.  A kind
with another name is not an error. -/
inductive Target where
  | int | float | decimal | bool | text | date | dateTime | uuid
  | unknown (name : String)
  deriving DecidableEq, Repr

namespace Target

/-- The name of a kind in messages.  An unknown kind has the name that it was given. -/
def name : Target → String
  | int => "int"
  | float => "float"
  | decimal => "Decimal"
  | bool => "bool"
  | text => "str"
  | date => "date"
  | dateTime => "datetime"
  | uuid => "UUID"
  | unknown name => name

/-- The kind with the given name.  Case matters, and any other name is kept for messages. -/
def ofName : String → Target
  | "int" => int
  | "float" => float
  | "Decimal" => decimal
  | "bool" => bool
  | "str" => text
  | "date" => date
  | "datetime" => dateTime
  | "UUID" => uuid
  | other => unknown other

/-- The kind that a value has.  What holds other values, and what is absent, has a kind that no cast
knows. -/
def ofValue : Value → Target
  | .int _ => int
  | .binary _ => float
  | .decimal _ => decimal
  | .bool _ => bool
  | .text _ => text
  | .date _ => date
  | .dateTime _ => dateTime
  | .uuid _ => uuid
  | v => unknown v.kindName

/-! ### Casting one value -/

/-- The text of a value, if it can be written.  An integer with too many digits has none, and then
no cast through the text succeeds. -/
def text? (v : Value) : Option String :=
  if v.isWritable then some v.shown else none

/-- The characters of a value without the blanks around them, if it can be written.  Casts to all
kinds but texts ignore these blanks. -/
def trimmedText? (v : Value) : Option (List Char) :=
  (text? v).map fun s => trim s.toList

@[simp] theorem trimmedText?_text (s : String) : trimmedText? (.text s) = some (trim s.toList) :=
  rfl

@[simp] theorem trimmedText?_decimal (x : Decimal) :
    trimmedText? (.decimal x) = some (trim x.scientific) := by
  rw [trimmedText?, text?, if_pos (by rfl), Option.map_some, Value.shown, String.toList_ofList]

/-- The yes or no that a word stands for.  Case does not count. -/
def readBool? (cs : List Char) : Option Bool :=
  let word := String.ofList (lower cs)
  if ["true", "t", "1", "yes"].contains word then some true
  else if ["false", "f", "0", "no"].contains word then some false
  else none

/-- Casts a value to a yes or no.  Numbers go through their texts, so that only one and zero stand
for a yes and a no. -/
def toBool? : Value → Option Value
  | .bool b => some (.bool b)
  | v => ((trimmedText? v).bind readBool?).map .bool

/-- Casts a value to an integer; a yes or no is none.  A binary number is none either, even if it is
whole, as its text is not that of an integer. -/
def toInt? : Value → Option Value
  | .bool _ => none
  | .int n => some (.int n)
  | v => ((trimmedText? v).bind Integer.read?).map .int

/-- Casts a value to a date and time; a date stands for its start.  A date and time that is one
already keeps its offset. -/
def toDateTime? : Value → Option Value
  | .dateTime t => some (.dateTime t)
  | .date d => some (.dateTime (.ofDate d))
  | v => ((trimmedText? v).bind DateTime.read?).map .dateTime

/-- Casts a value to a date; a date and time stands for its local date.  The offset is dropped with
the time. -/
def toDate? : Value → Option Value
  | .dateTime t => some (.date t.date)
  | .date d => some (.date d)
  | v => ((trimmedText? v).bind Date.read?).map .date

/-- Casts a value to an identifier.  All texts that denote an identifier give the same one. -/
def toUuid? : Value → Option Value
  | .uuid u => some (.uuid u)
  | v => ((trimmedText? v).bind Uuid.read?).map .uuid

/-- Casts one value.  Dates, yes and no and identifiers are recognised by their kind, and all else
goes through its text. -/
def castAtom? : Target → Value → Option Value
  | int, v => toInt? v
  | float, v => ((trimmedText? v).bind Binary.read?).map .binary
  | decimal, v => ((trimmedText? v).bind Decimal.read?).map .decimal
  | bool, v => toBool? v
  | text, v => (text? v).map .text
  | date, v => toDate? v
  | dateTime, v => toDateTime? v
  | uuid, v => toUuid? v
  | unknown _, v => some v

/-- Casts a value that is neither absent nor a list; the error is the value itself. -/
def castLone (target : Target) (v : Value) : Except Value Value :=
  match target.castAtom? v with
  | some w => .ok w
  | none => .error v

/-! ### Casting lists -/

mutual

/-- Casts a value.  The items of a list or a tuple are cast one by one and make a list, and the
absent value stays as it is.  Lists in lists are cast in the same way, item by item. -/
def cast (target : Target) : Value → Except Value Value
  | .null => .ok .null
  | .list items => do return .list (← castItems target items)
  | .tuple items => do return .list (← castItems target items)
  | .range lower upper => do return .list [← cast target lower, ← cast target upper]
  | v => castLone target v

/-- Casts the items of a list up to the first that has no counterpart. -/
def castItems (target : Target) : List Value → Except Value (List Value)
  | [] => .ok []
  | v :: items => do
    let w ← cast target v
    return w :: (← castItems target items)

end

end Target

end UrlFilter
