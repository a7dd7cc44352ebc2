import UrlFilter.Value.Basic
import UrlFilter.Calendar.IsoText
import UrlFilter.Text.Quoted

namespace UrlFilter.Value

open UrlFilter.Text UrlFilter.Number UrlFilter.Calendar

/-!
# Values as text

* `quoted` — a value as it appears in an error message, where its kind can be told.
* `shown` — a value as plain text.
* `isWritable` — whether a value has a text at all.

The two texts are defined for every value.  Where an integer with too many digits is met, the value
alone or somewhere inside it, they stand for nothing: such a value is not writable.  Writing,
casting and the tests of text in memory ask for this first.  Elsewhere values are taken to be
writable: the values of a grouping parameter, the choices of a field and the numbers of a page.
-/

/-- The text of a yes or no.  Both words start with a capital. -/
def boolText (b : Bool) : String :=
  if b then "True" else "False"

/-- The texts of the items with commas between them.  A blank follows each comma. -/
def commaSeparated (items : List String) : String :=
  ", ".intercalate items

/-- A length of time as days, seconds and microseconds, of which only the days may be negative.  A
negative length is a negative number of days and a rest that is not negative. -/
def durationText (microseconds : Int) : String :=
  let days := microseconds / microsecondsPerDay
  let rest := microseconds % microsecondsPerDay
  let seconds := rest / 1000000
  let micros := rest % 1000000
  let parts :=
    (if days = 0 then [] else [s!"days={days}"])
      ++ (if seconds = 0 then [] else [s!"seconds={seconds}"])
      ++ (if micros = 0 then [] else [s!"microseconds={micros}"])
  "datetime.timedelta(" ++ (if parts.isEmpty then "0" else commaSeparated parts) ++ ")"

/-- The text of an offset in a message.  Universal time has a name. -/
def offsetText (o : UtcOffset) : String :=
  if o.microseconds = 0 then "datetime.timezone.utc"
  else s!"datetime.timezone({durationText o.microseconds})"

/-- The numbers of a date.  They are not padded with zeros. -/
def dateNumbers (d : Date) : List String :=
  [toString d.year, toString d.month, toString d.day]

/-- The numbers of a time; zeros at the end are left out, but not the minutes.  Microseconds are
preceded by seconds, even if these are zero. -/
def timeNumbers (t : TimeOfDay) : List String :=
  [toString t.hour, toString t.minute] ++
    if t.microsecond ≠ 0 then [toString t.second, toString t.microsecond]
    else if t.second ≠ 0 then [toString t.second]
    else []

/-- A date and time in a message.  An unknown offset is not mentioned. -/
def dateTimeQuoted (t : DateTime) : String :=
  let offset := match t.offset with
    | none => []
    | some o => [s!"tzinfo={offsetText o}"]
  s!"datetime.datetime({commaSeparated (dateNumbers t.date ++ timeNumbers t.time ++ offset)})"

/-- The symbol of an operator in a message.  Its name is the symbol in upper case. -/
def operatorQuoted (op : Operator) : String :=
  s!"<Operator.{op.symbol.map Char.toUpper}: '{op.symbol}'>"

mutual

/-- A value as it appears in an error message.  Texts stand in quotation marks, and the kind of a
date, of an identifier and of a decimal number is told. -/
def quoted : Value → String
  | null => "None"
  | bool b => boolText b
  | int n => String.ofList (Integer.text n)
  | binary x => String.ofList x.text
  | decimal x => s!"Decimal('{String.ofList x.scientific}')"
  | text s => Text.quoted s
  | keyword op => operatorQuoted op
  | date d => s!"datetime.date({commaSeparated (dateNumbers d)})"
  | dateTime t => dateTimeQuoted t
  | uuid u => s!"UUID('{String.ofList u.text}')"
  | list items => s!"[{commaSeparated (quotedItems items)}]"
  | tuple [item] => s!"({quoted item},)"
  | tuple items => s!"({commaSeparated (quotedItems items)})"
  | range lower upper => s!"RangeValue(lower={quoted lower}, upper={quoted upper})"
  | set [] => "frozenset()"
  | set items => "frozenset(\x7b" ++ commaSeparated (quotedItems items) ++ "\x7d)"
  | map entries => "\x7b" ++ commaSeparated (quotedEntries entries) ++ "\x7d"
  | object attributes => s!"namespace({commaSeparated (quotedAttributes attributes)})"

/-- The items of a collection in a message. -/
def quotedItems : List Value → List String
  | [] => []
  | v :: vs => quoted v :: quotedItems vs

/-- The entries of a map in a message.  Keys stand in quotation marks. -/
def quotedEntries : List (String × Value) → List String
  | [] => []
  | (key, v) :: entries => s!"{Text.quoted key}: {quoted v}" :: quotedEntries entries

/-- The attributes of an object in a message.  Names stand as they are. -/
def quotedAttributes : List (String × Value) → List String
  | [] => []
  | (name, v) :: attributes => s!"{name}={quoted v}" :: quotedAttributes attributes

end

/-- A value as plain text; what has no plain text of its own appears as in a message.  The items of
a collection are quoted all the same. -/
def shown : Value → String
  | text s => s
  | keyword op => op.symbol
  | decimal x => String.ofList x.scientific
  | date d => String.ofList d.text
  | dateTime t => String.ofList (t.textWith ' ')
  | uuid u => String.ofList u.text
  | v => quoted v

/-! ### Values that can be written -/

mutual

/-- No integer in the value has too many digits.  Only integers have such a limit: decimal and
binary numbers are written whatever their size.  This is asked before a value is shown or quoted. -/
def isWritable : Value → Bool
  | int n => Integer.isWritable n
  | list items => areWritable items
  | tuple items => areWritable items
  | range lower upper => isWritable lower && isWritable upper
  | set items => areWritable items
  | map entries => entriesWritable entries
  | object attributes => entriesWritable attributes
  | _ => true

/-- No integer in the items has too many digits.  It is a function of its own because a value holds
its items, and the items are values. -/
def areWritable : List Value → Bool
  | [] => true
  | v :: vs => isWritable v && areWritable vs

/-- No integer in the values of the entries has too many digits. -/
def entriesWritable : List (String × Value) → Bool
  | [] => true
  | (_, v) :: entries => isWritable v && entriesWritable entries

end

@[simp] theorem isWritable_text (s : String) : (text s).isWritable = true := rfl

@[simp] theorem isWritable_bool (b : Bool) : (bool b).isWritable = true := rfl

theorem areWritable_eq_all (items : List Value) : areWritable items = items.all isWritable := by
  induction items with
  | nil => rfl
  | cons v items ih => rw [areWritable, List.all_cons, ih]

theorem entriesWritable_eq_all (entries : List (String × Value)) :
    entriesWritable entries = entries.all fun e => e.2.isWritable := by
  induction entries with
  | nil => rfl
  | cons e entries ih => rw [entriesWritable, List.all_cons, ih]

/-- A list can be written if each of its items can.  The reader of lists needs the texts of all of
them. -/
theorem isWritable_list_iff {items : List Value} :
    (list items).isWritable = true ↔ ∀ v ∈ items, v.isWritable = true := by
  rw [isWritable, areWritable_eq_all, List.all_eq_true]

end UrlFilter.Value
