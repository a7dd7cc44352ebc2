import UrlFilter.Number.Binary
import UrlFilter.Calendar.DateTime
import UrlFilter.Operator
import UrlFilter.Uuid

namespace UrlFilter

open UrlFilter.Number UrlFilter.Calendar

/-!
# Values

* `Value` — what a filter compares a field with, and what a record holds in a field.
* `Value.asText?` — the characters of a text; an operator counts as the text of its symbol.
* `Value.isTrue` — how a value reads where a yes or no is needed.
-/

/-- A value.  The items of a set are pairwise different, and so are the keys of a map and the names
of the attributes of an object.  A text, an operator and an identifier are three kinds, though an
operator is equal to the text of its symbol.  A range is a kind of its own that is equal to the
tuple of its bounds. -/
inductive Value where
  | null
  | bool (b : Bool)
  | int (n : Int)
  | binary (x : Binary)
  | decimal (x : Decimal)
  | text (s : String)
  | keyword (op : Operator)
  | date (d : Date)
  | dateTime (t : DateTime)
  | uuid (u : Uuid)
  | list (items : List Value)
  | tuple (items : List Value)
  | range (lower upper : Value)
  | set (items : List Value)
  | map (entries : List (String × Value))
  | object (attributes : List (String × Value))
  deriving Repr, Inhabited

namespace Value

/-- The absent value.  A field that a record does not have, and a bound that is not given, are
absent too. -/
def isNull : Value → Bool
  | null => true
  | _ => false

/-- The characters of a text; an operator counts as the text of its symbol.  No other value is a
text, though every value can be shown as one. -/
def asText? : Value → Option String
  | text s => some s
  | keyword op => some op.symbol
  | _ => none

/-- A yes or no. -/
def isBool : Value → Bool
  | bool _ => true
  | _ => false

/-- A list, a tuple, a range or a set.  Maps and objects are none. -/
def isCollection : Value → Bool
  | list _ | tuple _ | range .. | set _ => true
  | _ => false

/-- The items of a list or a tuple; a range is a tuple of its two bounds.  What is written as a
repeated parameter is a sequence. -/
def sequence? : Value → Option (List Value)
  | list items => some items
  | tuple items => some items
  | range lower upper => some [lower, upper]
  | _ => none

/-- The items of a tuple; a range is a tuple of its two bounds.  A list of two items is no range. -/
def tuple? : Value → Option (List Value)
  | tuple items => some items
  | range lower upper => some [lower, upper]
  | _ => none

/-- The values met one after another in a value: the items of a list, a tuple or a set, the
characters of a text, the keys of a map. -/
def elements? : Value → Option (List Value)
  | list items => some items
  | tuple items => some items
  | range lower upper => some [lower, upper]
  | set items => some items
  | text s => some (s.toList.map fun c => text (String.singleton c))
  | keyword op => some (op.symbol.toList.map fun c => text (String.singleton c))
  | map entries => some (entries.map fun e => text e.1)
  | _ => none

/-- How a value reads where a yes or no is needed: nothing, zero and what is empty read as no.  A
NaN reads as yes, as it is not zero. -/
def isTrue : Value → Bool
  | null => false
  | bool b => b
  | int n => n != 0
  | binary x => x.toDecimal.isNan || !x.toDecimal.isZero
  | decimal x => !x.isZero
  | text s => !s.isEmpty
  | list items => !items.isEmpty
  | tuple items => !items.isEmpty
  | set items => !items.isEmpty
  | map entries => !entries.isEmpty
  | _ => true

/-! ### Names of kinds -/

/-- The name of the kind of a value in messages.  It appears where something is to be cast to the
kind of such a value. -/
def kindName : Value → String
  | null => "NoneType"
  | bool _ => "bool"
  | int _ => "int"
  | binary _ => "float"
  | decimal _ => "Decimal"
  | text _ => "str"
  | keyword _ => "Operator"
  | date _ => "date"
  | dateTime _ => "datetime"
  | uuid _ => "UUID"
  | list _ => "list"
  | tuple _ => "tuple"
  | range .. => "RangeValue"
  | set _ => "frozenset"
  | map _ => "dict"
  | object _ => "SimpleNamespace"

end Value

end UrlFilter
