/-
  Fanout.Calendar.Date
  ────────────────────
  **Dates of the Gregorian calendar, extended without end in both
  directions and then cut to a fixed range of years.**

  A date is a year, a month and a day that exist.  Its *day number* counts
  days from 1 January 1970; it turns the calendar into integers, and every
  computation with dates goes through it.
-/

namespace Fanout.Calendar

/-! ## §1. Years and months. -/

/-- Does the year have a 29 February? -/
def isLeapYear (year : Int) : Bool :=
  year % 4 == 0 && (year % 100 != 0 || year % 400 == 0)

/-- The lengths of the twelve months. -/
def monthLengths (leap : Bool) : List Nat :=
  [31, if leap then 29 else 28, 31, 30, 31, 30, 31, 31, 30, 31, 30, 31]

/-- The number of days of a month, counted from 1; no days for a month that is none. -/
def daysInMonth (year : Int) (month : Nat) : Nat :=
  if month = 0 then 0 else (monthLengths (isLeapYear year)).getD (month - 1) 0

/-- The number of days of the year before the month, counted from 1. -/
def daysBeforeMonth (year : Int) (month : Nat) : Nat :=
  ((monthLengths (isLeapYear year)).take (month - 1)).foldr (· + ·) 0

/-- The day number of 1 January. -/
def yearStart (year : Int) : Int :=
  365 * (year - 1) + (year - 1) / 4 - (year - 1) / 100 + (year - 1) / 400 - 719162

/-! ## §2. Dates. -/

/-- The first year of the range. -/
def minYear : Int := -262143

/-- The last year of the range. -/
def maxYear : Int := 262142

/-- Is there such a day, and is its year in the range? -/
def IsDate (year : Int) (month day : Nat) : Prop :=
  minYear ≤ year ∧ year ≤ maxYear ∧ 1 ≤ day ∧ day ≤ daysInMonth year month

/-- Whether there is such a day can be decided. -/
instance (year : Int) (month day : Nat) : Decidable (IsDate year month day) := by
  unfold IsDate
  infer_instance

/-- A day of the calendar. -/
structure Date where
  /-- The year; the year before 1 is 0. -/
  year : Int
  /-- The month, from 1 to 12. -/
  month : Nat
  /-- The day of the month, from 1. -/
  day : Nat
  /-- The day exists. -/
  isDate : IsDate year month day
  deriving DecidableEq

/-- The date with these parts, if there is one. -/
def Date.of? (year : Int) (month day : Nat) : Option Date :=
  if h : IsDate year month day then some ⟨year, month, day, h⟩ else none

/-- The day of the year, from 1. -/
def Date.dayOfYear (d : Date) : Nat := daysBeforeMonth d.year d.month + d.day

/-- The number of days since 1 January 1970. -/
def Date.dayNumber (d : Date) : Int := yearStart d.year + (d.dayOfYear : Int) - 1

/-! ## §3. From day numbers to dates. -/

/-- The year that holds a day number: an estimate from the mean length of a year, put right
by at most one. -/
def yearOfDay (n : Int) : Int :=
  let guess := n * 400 / 146097 + 1970
  if n < yearStart guess then guess - 1
  else if yearStart (guess + 1) ≤ n then guess + 1
  else guess

/-- Finds the month that holds day `n`, counted from 0, going through the lengths of the
months from `month` on; the answer counts both from 1. -/
def splitMonths : List Nat → Nat → Nat → Nat × Nat
  | [], month, n => (month, n + 1)
  | length :: rest, month, n =>
    if n < length then (month, n + 1) else splitMonths rest (month + 1) (n - length)

/-- The date with a day number, if it lies in the range. -/
def Date.ofDayNumber? (n : Int) : Option Date :=
  let year := yearOfDay n
  let (month, day) := splitMonths (monthLengths (isLeapYear year)) 1 (n - yearStart year).toNat
  Date.of? year month day

/-! ## §4. Weeks. -/

/-- The number of days since the last Monday. -/
def Date.daysFromMonday (d : Date) : Nat := ((d.dayNumber + 3) % 7).toNat

/-- The number of days since the last Sunday. -/
def Date.daysFromSunday (d : Date) : Nat := (d.daysFromMonday + 1) % 7

/-- The week of the year when weeks begin with the day on which `sinceStart` is 0; the
days before the first such day form week 0. -/
def Date.weekOfYear (d : Date) (sinceStart : Nat) : Nat := (d.dayOfYear + 6 - sinceStart) / 7

/-- The number of numbered weeks of a year: 53 when it begins on a Thursday, or is a leap
year that begins on a Wednesday. -/
def weeksOfYear (year : Int) : Int :=
  let first := (yearStart year + 3) % 7
  if first = 3 ∨ (first = 2 ∧ isLeapYear year) then 53 else 52

/-- The year and number of the week of a date, where week 1 of a year is the week with its
first Thursday. -/
def Date.numberedWeek (d : Date) : Int × Int :=
  let week : Int := ((d.dayOfYear : Int) - (d.daysFromMonday : Int) + 9) / 7
  if week < 1 then (d.year - 1, weeksOfYear (d.year - 1))
  else if weeksOfYear d.year < week then (d.year + 1, 1)
  else (d.year, week)

/-! ## §5. Order. -/

/-- Dates are ordered by year, month and day. -/
def Date.order (a b : Date) : Ordering :=
  (compare a.year b.year).then ((compare a.month b.month).then (compare a.day b.day))

end Fanout.Calendar
