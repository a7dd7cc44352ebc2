namespace UrlFilter.Calendar

/-!
# Calendar dates

Dates of the Gregorian calendar in the years 1 to 9999.

* `Date` — a year, a month and a day that exist.
* `Date.dayNumber` — the number of days up to a date, so that dates are ordered as numbers are.
* `Date.ofWeek?` — the date of a weekday in a numbered week.
-/

/-- A year with a day at the end of February.  Every fourth year has one, but of the years that end
a century only every fourth. -/
def isLeap (year : Nat) : Bool :=
  year % 4 == 0 && (year % 100 != 0 || year % 400 == 0)

/-- The number of days in a month.  The year matters for February only. -/
def daysInMonth (year month : Nat) : Nat :=
  if month = 2 then (if isLeap year then 29 else 28)
  else if month = 4 ∨ month = 6 ∨ month = 9 ∨ month = 11 then 30
  else 31

/-- The number of days in a year. -/
def daysInYear (year : Nat) : Nat :=
  if isLeap year then 366 else 365

/-- A date that exists.  The bounds are part of the structure, so that a date never has to be
checked again. -/
structure Date where
  year : Nat
  month : Nat
  day : Nat
  year_mem : 1 ≤ year ∧ year ≤ 9999
  month_mem : 1 ≤ month ∧ month ≤ 12
  day_mem : 1 ≤ day ∧ day ≤ daysInMonth year month
  deriving DecidableEq, Repr

namespace Date

/-- The date of the given numbers, if there is one.  This is the only way in which a date is made
from numbers that were read. -/
def of? (year month day : Nat) : Option Date :=
  if h : (1 ≤ year ∧ year ≤ 9999) ∧ (1 ≤ month ∧ month ≤ 12)
      ∧ (1 ≤ day ∧ day ≤ daysInMonth year month) then
    some ⟨year, month, day, h.1, h.2.1, h.2.2⟩
  else none

/-- The numbers of a date name that date. -/
theorem of?_self (d : Date) : of? d.year d.month d.day = some d := by
  rw [of?, dif_pos ⟨d.year_mem, d.month_mem, d.day_mem⟩]

/-- Dates in the order of the calendar. -/
def compare (d e : Date) : Ordering :=
  ((Ord.compare d.year e.year).then (Ord.compare d.month e.month)).then (Ord.compare d.day e.day)

/-! ### Counting days -/

/-- The number of days before a year.  Each year before it has 365 days, and one more for each leap
day. -/
def daysBeforeYear (year : Nat) : Nat :=
  365 * (year - 1) + (year - 1) / 4 - (year - 1) / 100 + (year - 1) / 400

/-- The number of days in the first months of a year. -/
def daysInMonths (year : Nat) : (months : Nat) → Nat
  | 0 => 0
  | months + 1 => daysInMonths year months + daysInMonth year (months + 1)

/-- The number of days in a year before a month. -/
def daysBeforeMonth (year month : Nat) : Nat :=
  daysInMonths year (month - 1)

/-- The number of days up to a date, the date itself included.  The first day of the first year has
the number 1. -/
def dayNumber (d : Date) : Nat :=
  daysBeforeYear d.year + daysBeforeMonth d.year d.month + d.day

/-- The month and the day of the `n`-th day of a year, where `month` is the first month that has
not been ruled out and `fuel` how many months are left. -/
def monthAndDay (year : Nat) : (fuel month n : Nat) → Nat × Nat
  | 0, month, n => (month, n)
  | fuel + 1, month, n =>
    if n ≤ daysInMonth year month then (month, n)
    else monthAndDay year fuel (month + 1) (n - daysInMonth year month)

/-- The `n`-th day of a year, also where that lies in the year before or after.  The days of a week
can lie on both sides of a new year. -/
def ofDayOfYear? (year : Nat) (n : Int) : Option Date :=
  let (year, n) :=
    if n < 1 then (year - 1, n + daysInYear (year - 1))
    else if n ≤ daysInYear year then (year, n)
    else (year + 1, n - daysInYear year)
  let (month, day) := monthAndDay year 12 1 n.toNat
  of? year month day

/-! ### Weeks -/

/-- The weekday of the first day of a year, from 0 for Monday to 6 for Sunday.  The first day of the
first year is a Monday. -/
def firstWeekday (year : Nat) : Nat :=
  daysBeforeYear year % 7

/-- The number of weeks in a year: a year that starts on a Thursday, or on a Wednesday if it is a
leap year, has 53. -/
def weeksInYear (year : Nat) : Nat :=
  if firstWeekday year = 3 ∨ (firstWeekday year = 2 ∧ isLeap year) then 53 else 52

/-- A weekday, from 1 for Monday to 7 for Sunday, in a numbered week; the first week of a year is
the one that holds its first Thursday.  A week that the year does not have gives no date. -/
def ofWeek? (year week weekday : Nat) : Option Date :=
  if 1 ≤ year ∧ 1 ≤ week ∧ week ≤ weeksInYear year ∧ 1 ≤ weekday ∧ weekday ≤ 7 then
    let first := firstWeekday year
    let monday : Int := if 3 < first then 8 - (first : Int) else 1 - (first : Int)
    ofDayOfYear? year (monday + 7 * (week - 1) + (weekday - 1))
  else none

end Date

end UrlFilter.Calendar
