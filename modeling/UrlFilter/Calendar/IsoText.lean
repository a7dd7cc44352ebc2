import UrlFilter.Calendar.DateTime
import UrlFilter.Text.Digit
import UrlFilter.Text.Utf8

namespace UrlFilter.Calendar

open UrlFilter.Text

/-!
# Dates and times as text

The texts of ISO 8601.  One form is written; reading also accepts the basic forms without
separators, weeks, any character between date and time, and a time cut short.

* `Date.text`, `DateTime.text` — the written form, `2024-01-05` and `2024-01-05T10:30:00+02:00`.
* `Date.read?`, `DateTime.read?` — reading.  Lengths are counted in octets of UTF-8, and where a
  date alone is read, what follows its day up to the eighth or tenth octet is ignored.
-/

/-! ### Writing -/

/-- The text of a date: year, month and day.  Four, two and two digits with dashes between them. -/
def Date.text (d : Date) : List Char :=
  padded 4 d.year ++ '-' :: padded 2 d.month ++ '-' :: padded 2 d.day

/-- A point and six digits, or nothing if there is no fraction of a second.  Zeros at the end of the
fraction are written. -/
def fractionText (microsecond : Nat) : List Char :=
  if microsecond = 0 then [] else '.' :: padded 6 microsecond

/-- The text of a time of day: hours, minutes and seconds, and a fraction if there is one. -/
def TimeOfDay.text (t : TimeOfDay) : List Char :=
  padded 2 t.hour ++ ':' :: padded 2 t.minute ++ ':' :: padded 2 t.second
    ++ fractionText t.microsecond

/-- The text of an offset: a sign, hours and minutes, and what else is not zero. -/
def UtcOffset.text (o : UtcOffset) : List Char :=
  let n := o.microseconds.natAbs
  let seconds := n / 1000000
  (if o.microseconds < 0 then '-' else '+') :: padded 2 (seconds / 3600)
    ++ ':' :: padded 2 (seconds / 60 % 60)
    ++ (if seconds % 60 = 0 ∧ n % 1000000 = 0 then [] else ':' :: padded 2 (seconds % 60))
    ++ fractionText (n % 1000000)

/-- The text of a date and time with the given character between the two.  A reader accepts any
character there; a text that a user sees has a blank. -/
def DateTime.textWith (separator : Char) (t : DateTime) : List Char :=
  t.date.text ++ separator :: t.time.text ++
    match t.offset with
    | none => []
    | some o => o.text

/-- The text of a date and time.  The letter between date and time is `T`. -/
def DateTime.text (t : DateTime) : List Char :=
  t.textWith 'T'

/-! ### Reading dates -/

/-- A number of exactly `n` digits, and what follows it.  Only the digits from 0 to 9 count. -/
def takeDigits? (n : Nat) (cs : List Char) : Option (Nat × List Char) :=
  let digits := cs.take n
  if digits.length = n ∧ digits.all Char.isDigit then
    some (Nat.ofDigitChars 10 digits 0, cs.drop n)
  else none

/-- A text in which every character is repeated so that it takes as many places as it has octets.
Positions in the text are counted in octets, though its characters are kept. -/
def octetPlaces (cs : List Char) : List Char :=
  cs.flatMap fun c => List.replicate (octetsOfChar c).length c

/-- What follows a dash, if there is one where `dashed` asks for one.  Either all parts of a date
are separated by dashes or none is. -/
def skipDash? (dashed : Bool) (cs : List Char) : Option (List Char) :=
  if dashed then
    match cs with
    | '-' :: rest => some rest
    | _ => none
  else some cs

/-- Reads a date from the start of a text: a month and a day, or a week and perhaps a weekday.  What
follows is ignored. -/
def readDate? (cs : List Char) : Option Date := do
  let (year, afterYear) ← takeDigits? 4 cs
  let dashed := afterYear.head? = some '-'
  let rest ← skipDash? dashed afterYear
  match rest with
  | 'W' :: rest =>
    let (week, rest) ← takeDigits? 2 rest
    if rest.isEmpty then Date.ofWeek? year week 1
    else
      let (weekday, _) ← takeDigits? 1 (← skipDash? dashed rest)
      Date.ofWeek? year week weekday
  | _ =>
    let (month, rest) ← takeDigits? 2 rest
    let (day, _) ← takeDigits? 2 (← skipDash? dashed rest)
    Date.of? year month day

/-- Reads a date that stands alone.  A text of another length is not that of a date. -/
def readLoneDate? (cs : List Char) : Option Date :=
  let places := octetPlaces cs
  if places.length = 7 ∨ places.length = 8 ∨ places.length = 10 then readDate? places else none

/-! ### Reading times -/

/-- The numbers read from the text of a time: hours, minutes and seconds as far as given, the
microseconds, and whether something follows. -/
structure ClockReading where
  fields : List Nat
  microsecond : Nat
  followed : Bool
  deriving DecidableEq, Repr

/-- The character that ends every text.  It stands for what follows a text, so that a text that is
cut short can be told from one that goes on. -/
def endMark : Char := '\x00'

/-- Reads a fraction of a second: six digits count and any more are skipped.  `next` is the
character after the text.  Fewer than six digits are the first of six. -/
def readFraction? (next : Char) (cs : List Char) : Option ClockReading := do
  let count := min 6 cs.length
  let (value, rest) ← takeDigits? count cs
  let following := (rest.dropWhile Char.isDigit).headD next
  return ⟨[], value * Nat.pow 10 (6 - count), following != endMark⟩

/-- Reads at most `count` numbers of two digits and then a fraction.  `separated` tells whether
colons stand between the numbers, once that is known.  A colon behind the first number decides for
all others; a point or a comma starts the fraction. -/
def readClock? (next : Char) : (count : Nat) → (separated : Option Bool) → List Char →
    Option ClockReading
  | 0, _, cs => readFraction? next cs
  | count + 1, separated, cs => do
    let (value, rest) ← takeDigits? 2 cs
    match rest with
    | [] => some ⟨[value], 0, next != endMark⟩
    | [c] => some ⟨[value], 0, c != endMark⟩
    | c :: more =>
      let separated := separated.getD (c == ':')
      let reading ←
        if separated && c == ':' then readClock? next count (some true) more
        else if c = '.' ∨ c = ',' then readFraction? next more
        else if separated then none
        else readClock? next count (some false) (c :: more)
      some { reading with fields := value :: reading.fields }

/-- The length of an offset; one without whole seconds counts as none.  Microseconds alone are lost,
and the offset is read as that of universal time. -/
def ClockReading.offset (r : ClockReading) : Nat :=
  let seconds := (r.fields.getD 0 0 * 60 + r.fields.getD 1 0) * 60 + r.fields.getD 2 0
  if seconds = 0 then 0 else seconds * 1000000 + r.microsecond

/-- The time of day that was read.  Numbers that are not given are zero. -/
def ClockReading.time? (r : ClockReading) : Option TimeOfDay :=
  TimeOfDay.of? (r.fields.getD 0 0) (r.fields.getD 1 0) (r.fields.getD 2 0) r.microsecond

/-- A sign of an offset.  The first sign of either kind starts the offset. -/
def isSign (c : Char) : Bool :=
  c == '+' || c == '-'

/-- Reads a time of day and its offset, if a sign follows.  Nothing may follow the offset or,
without one, the time. -/
def readTime? (cs : List Char) : Option (TimeOfDay × Option UtcOffset) := do
  let clock := cs.takeWhile (!isSign ·)
  match cs.dropWhile (!isSign ·) with
  | [] =>
    let reading ← readClock? endMark 3 none clock
    if reading.followed then none else return (← reading.time?, none)
  | sign :: rest =>
    let reading ← readClock? sign 3 none clock
    let distance ← readClock? endMark 3 none rest
    if distance.followed then none
    else
      let length : Int := distance.offset
      return (← reading.time?, some (← UtcOffset.of? (if sign = '-' then -length else length)))

/-- Where the date ends in a text that may go on with a time.  In a text with weeks, the number of
digits tells whether a weekday is among them. -/
def dateEnd? (cs : List Char) : Option Nat :=
  if cs.length = 7 then some 7
  else if cs[4]? = some '-' then
    if cs[5]? = some 'W' then
      if cs.length < 8 ∨ (cs[8]? = some '-' ∧ cs.length = 9) then none
      else if cs[8]? = some '-' ∧ !cs[10]?.any Char.isDigit then some 10
      else some 8
    else some 10
  else if cs[4]? = some 'W' then
    let count := ((cs.drop 7).takeWhile Char.isDigit).length
    if count < 2 then some (7 + count) else if count % 2 = 1 then some 7 else some 8
  else some 8

/-- Reads a date and perhaps a time from a text without the letter for universal time.  A date alone
is read as its start. -/
def readDateTime? (cs : List Char) : Option DateTime := do
  let places := octetPlaces cs
  let length ← dateEnd? places
  let date ← readDate? (places.take length)
  match places.drop length with
  | [] => some (.ofDate date)
  | separator :: rest =>
    let (time, offset) ← readTime? (rest.drop ((octetsOfChar separator).length - 1))
    some ⟨date, time, offset⟩

/-- The date and time that a text denotes; the letter `Z` stands for universal time.  It is replaced
wherever it stands, and not only at the end. -/
def DateTime.read? (cs : List Char) : Option DateTime :=
  readDateTime? (cs.flatMap fun c => if c = 'Z' then "+00:00".toList else [c])

/-- The date that a text denotes, alone or with a time of day.  The time of day is dropped then,
whatever its offset. -/
def Date.read? (cs : List Char) : Option Date :=
  readLoneDate? cs <|> (DateTime.read? cs).map DateTime.date

end UrlFilter.Calendar
