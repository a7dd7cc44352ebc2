import UrlFilter.Params
import UrlFilter.Settings.Issue
import UrlFilter.Text.Digit
import UrlFilter.Text.Case
import UrlFilter.Text.Blank

namespace UrlFilter.Settings

open UrlFilter.Text UrlFilter.Number

/-!
# Reading settings

Settings are read leniently: a text can stand for a number or for a yes or no, and a number without
a fraction for an integer.

* `readInt`, `readBool`, `readText` — single settings.
* `Reader` — how a value becomes a setting.
* `required`, `optional` — a setting by its name.
-/

/-- How a value becomes a setting.  The fault does not know the name of the setting; `located` adds
it. -/
abbrev Reader (α : Type) := Value → Except Fault α

/-! ### Integers -/

/-- The longest integer, counted in digits, that a setting may have.  Zeros in front are not
counted, since they have been dropped. -/
def maxDigits : Nat := 4300

/-- A digit other than zero.  Only ASCII digits are read in settings. -/
def isLeadingDigit (c : Char) : Bool :=
  '1' ≤ c && c ≤ '9'

/-- The number that a text denotes: digits without zeros in front, perhaps behind a minus sign.  A
zero may have a minus sign, too. -/
def readPlainInt (cs : List Char) : Except Fault Int :=
  let negative := cs.head? = some '-'
  let digits := if negative then cs.drop 1 else cs
  if digits = ['0'] then .ok 0
  else if digits.head?.any isLeadingDigit && digits.all Char.isDigit then
    if maxDigits < digits.length then .error .intTooLong
    else
      let n : Int := Nat.ofDigitChars 10 digits 0
      .ok (if negative then -n else n)
  else .error .intUnreadable

/-- The text behind a zero without further zeros and underscores; the character before a point or
before the end is kept.  Nothing but zeros and underscores may stand between. -/
def dropZerosAfter? (last : Char) : List Char → Option (List Char)
  | [] => some [last]
  | c :: cs =>
    if c = '0' ∨ c = '_' then dropZerosAfter? c cs
    else if isLeadingDigit c then some (c :: cs)
    else if c = '.' then some (last :: c :: cs)
    else none

/-- The text without the zeros in front.  A minus sign ends the search for zeros at once. -/
def dropZeros? : List Char → Option (List Char)
  | [] => none
  | c :: cs =>
    if c = '-' ∨ isLeadingDigit c then some (c :: cs)
    else if c = '0' then dropZerosAfter? c cs
    else none

/-- The text without a fraction of zeros.  A point without digits behind it is dropped as well. -/
def dropZeroFraction (cs : List Char) : List Char :=
  match splitFirst '.' cs with
  | some (whole, fraction) => if fraction.all (· == '0') then whole else cs
  | none => cs

/-- Two underscores stand side by side.  Such a text is left as it is. -/
def hasDoubledUnderscore : List Char → Bool
  | c :: d :: cs => (c == '_' && d == '_') || hasDoubledUnderscore (d :: cs)
  | _ => false

/-- The text without single underscores inside of it.  Otherwise it is left as it is, and is no
integer then. -/
def dropUnderscores (cs : List Char) : List Char :=
  if cs.head? = some '_' ∨ cs.getLast? = some '_' ∨ hasDoubledUnderscore cs then cs
  else cs.filter (· != '_')

/-- The text without what an integer may be dressed up with: white space around it, a plus sign,
zeros in front, a fraction of zeros and underscores.  A plus sign and a minus sign together are
refused. -/
def plainInt? (cs : List Char) : Option (List Char) := do
  let inner := dropEndWhile isWhiteSpace (cs.dropWhile isWhiteSpace)
  let unsigned ← match inner with
    | '+' :: '-' :: _ => none
    | '+' :: rest => some rest
    | rest => some rest
  return dropUnderscores (dropZeroFraction (← dropZeros? unsigned))

/-- The integer that a text denotes.  The plain form is tried first, and only a text that is
unreadable in it is tried in the other forms. -/
def readIntText (cs : List Char) : Except Fault Int :=
  match readPlainInt cs with
  | .error .intUnreadable =>
    match plainInt? cs with
    | some plain => readPlainInt plain
    | none => .error .intUnreadable
  | result => result

/-- A number without a fraction.  An infinity and a NaN are told apart from a number with a
fraction. -/
def readWhole (x : Decimal) : Except Fault Int :=
  match x with
  | .finite .. => match x.toInt? with
    | some n => .ok n
    | none => .error .fractional
  | _ => .error .notFinite

/-- The number fits into a machine word with a sign.  The least such number is left out. -/
def fitsWord (n : Int) : Bool :=
  n.natAbs < 0x8000000000000000

/-- Reads an integer.  A yes counts as one and a no as zero; binary numbers must fit into a machine
word. -/
def readInt : Reader Int
  | .int n => .ok n
  | .bool b => .ok (if b then 1 else 0)
  | .text s => readIntText s.toList
  | .keyword op => readIntText op.symbol.toList
  | .decimal x => readWhole x
  | .binary x =>
    match readWhole x.toDecimal with
    | .ok n => if fitsWord n then .ok n else .error .intTooLong
    | .error fault => .error fault
  | _ => .error .intNeeded

/-- Reads an integer above a bound.  The bound itself is refused. -/
def readAbove (bound : Int) : Reader Int := fun v => do
  let n ← readInt v
  if bound < n then .ok n else .error .notAbove

/-- Reads an integer that is not negative.  Zero is accepted. -/
def readNat : Reader Nat := fun v => do
  let n ← readInt v
  if 0 ≤ n then .ok n.toNat else .error .below

/-! ### Yes and no -/

/-- The yes or no that a word stands for, in letters of either case.  Other words are unreadable,
which is another fault than being no word. -/
def readBoolText (cs : List Char) : Except Fault Bool :=
  let word := String.ofList (cs.map Char.toLower)
  if ["1", "on", "t", "true", "y", "yes"].contains word then .ok true
  else if ["0", "off", "f", "false", "n", "no"].contains word then .ok false
  else .error .boolUnreadable

/-- One is a yes and zero a no; a number of more than one machine word is no kind of answer.  All
other numbers of one word are unreadable. -/
def readBoolInt (n : Int) : Except Fault Bool :=
  if n = 1 then .ok true
  else if n = 0 then .ok false
  else if fitsWord n then .error .boolUnreadable
  else .error .boolNeeded

/-- Reads a yes or no from a number.  A number with a fraction is no kind of answer either. -/
def readBoolNumber (x : Decimal) : Except Fault Bool :=
  match x.toInt? with
  | some n => readBoolInt n
  | none => .error .boolNeeded

/-- Reads a yes or no.  What is absent is no answer. -/
def readBool : Reader Bool
  | .bool b => .ok b
  | .int n => readBoolInt n
  | .text s => readBoolText s.toList
  | .keyword op => readBoolText op.symbol.toList
  | .binary x => readBoolNumber x.toDecimal
  | .decimal x => readBoolNumber x
  | _ => .error .boolNeeded

/-! ### Other settings -/

/-- Reads a text.  Numbers are not turned into texts. -/
def readText : Reader String := fun v =>
  match v.asText? with
  | some s => .ok s
  | none => .error .textNeeded

/-- Reads one of a few words.  The fault tells whether the words are those of a list or of a few
literals. -/
def readWord {α : Type} (fault : Fault) (find : String → Option α) : Reader α := fun v =>
  match v.asText?.bind find with
  | some a => .ok a
  | none => .error fault

/-- Reads a setting that may be absent.  Only the absent value counts as absent, and not an empty
text. -/
def readOption {α : Type} (read : Reader α) : Reader (Option α)
  | .null => .ok none
  | v => (read v).map some

/-- Any value is a setting of its own kind.  It never fails. -/
def readAny : Reader Value := .ok

/-- The items of a list, a tuple or a set.  A text is not taken for the list of its characters. -/
def readItems : Reader (List Value)
  | .list items => .ok items
  | .tuple items => .ok items
  | .range lower upper => .ok [lower, upper]
  | .set items => .ok items
  | _ => .error .sequenceNeeded

/-! ### Settings by name -/

/-- A setting that was read, with its path in case of a fault.  A path tells a user which of the
settings to mend. -/
def located {α : Type} (path : List Step) (result : Except Fault α) : Checked α :=
  result.mapError fun fault => [⟨path, fault⟩]

/-- A setting that must be given.  A setting that is there but absent is read like any other. -/
def required {α : Type} (settings : Params) (name : String) (read : Reader α) : Checked α :=
  match settings.get? name with
  | some v => located [.name name] (read v)
  | none => .error [⟨[.name name], .missing⟩]

/-- A setting with a value in case it is not given.  The value is not checked, as it is part of the
program. -/
def optional {α : Type} (settings : Params) (name : String) (read : Reader α) (default : α) :
    Checked α :=
  match settings.get? name with
  | some v => located [.name name] (read v)
  | none => .ok default

/-- The items of a list, each read by itself.  Items are found by their places in the issues. -/
def listOf {α : Type} (read : Reader α) (name : String) (v : Value) : Checked (List α) := do
  let items ← located [.name name] (readItems v)
  Checked.traverse (fun n item => located [.name name, .place n] (read item)) 0 items

/-- A list that must be given.  An empty list is a list. -/
def requiredList {α : Type} (settings : Params) (name : String) (read : Reader α) :
    Checked (List α) :=
  match settings.get? name with
  | some v => listOf read name v
  | none => .error [⟨[.name name], .missing⟩]

/-- A list with a value in case it is not given.  An absent value is no list, and a fault. -/
def optionalList {α : Type} (settings : Params) (name : String) (read : Reader α)
    (default : List α) : Checked (List α) :=
  match settings.get? name with
  | some v => listOf read name v
  | none => .ok default

end UrlFilter.Settings
