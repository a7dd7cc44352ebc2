import UrlFilter.Calendar.Date

namespace UrlFilter.Calendar

/-!
# Dates with a time of day

* `TimeOfDay` — hours to microseconds.
* `UtcOffset` — the distance of a local time from universal time.
* `DateTime` — a local date and time, with its offset if that is known.
* `DateTime.compare?` — the order of two moments; there is none if only one offset is known.
-/

/-- A time of day in microseconds.  There is no leap second, and midnight is the start of a day
only. -/
structure TimeOfDay where
  hour : Nat
  minute : Nat
  second : Nat
  microsecond : Nat
  hour_lt : hour < 24
  minute_lt : minute < 60
  second_lt : second < 60
  microsecond_lt : microsecond < 1000000
  deriving DecidableEq, Repr

namespace TimeOfDay

/-- The time of the given numbers, if there is one. -/
def of? (hour minute second microsecond : Nat) : Option TimeOfDay :=
  if h : hour < 24 ∧ minute < 60 ∧ second < 60 ∧ microsecond < 1000000 then
    some ⟨hour, minute, second, microsecond, h.1, h.2.1, h.2.2.1, h.2.2.2⟩
  else none

/-- The numbers of a time name that time. -/
theorem of?_self (t : TimeOfDay) :
    of? t.hour t.minute t.second t.microsecond = some t := by
  rw [of?, dif_pos ⟨t.hour_lt, t.minute_lt, t.second_lt, t.microsecond_lt⟩]

/-- The start of the day. -/
def midnight : TimeOfDay :=
  ⟨0, 0, 0, 0, by decide, by decide, by decide, by decide⟩

/-- Microseconds since the start of the day. -/
def microseconds (t : TimeOfDay) : Nat :=
  ((t.hour * 60 + t.minute) * 60 + t.second) * 1000000 + t.microsecond

end TimeOfDay

/-- The microseconds in a day. -/
def microsecondsPerDay : Nat := 86400000000

/-- The distance of a local time from universal time, less than a day.  It is positive to the east
of the meridian, where local time is ahead. -/
structure UtcOffset where
  microseconds : Int
  lt_day : microseconds.natAbs < microsecondsPerDay
  deriving DecidableEq, Repr

namespace UtcOffset

/-- The offset of the given length, if that is less than a day. -/
def of? (microseconds : Int) : Option UtcOffset :=
  if h : microseconds.natAbs < microsecondsPerDay then some ⟨microseconds, h⟩ else none

/-- The length of an offset names that offset. -/
theorem of?_self (o : UtcOffset) : of? o.microseconds = some o := by
  rw [of?, dif_pos o.lt_day]

/-- Universal time itself. -/
def utc : UtcOffset :=
  ⟨0, by decide⟩

end UtcOffset

/-- A date and a time of day, at a place whose offset may be known. -/
structure DateTime where
  date : Date
  time : TimeOfDay
  offset : Option UtcOffset
  deriving DecidableEq, Repr

namespace DateTime

/-- The start of a date, at no particular place. -/
def ofDate (d : Date) : DateTime :=
  ⟨d, .midnight, none⟩

/-- Microseconds of local time. -/
def localTime (t : DateTime) : Int :=
  t.date.dayNumber * microsecondsPerDay + t.time.microseconds

/-- The order of two moments, if both or neither of the offsets are known. -/
def compare? (s t : DateTime) : Option Ordering :=
  match s.offset, t.offset with
  | none, none => some (Ord.compare s.localTime t.localTime)
  | some o, some p =>
    some (Ord.compare (s.localTime - o.microseconds) (t.localTime - p.microseconds))
  | _, _ => none

end DateTime

end UrlFilter.Calendar
