/-
  Fanout.Calendar.DateTime
  ────────────────────────
  **Points in time.**

  A point in time is a date, a second of that day and nanoseconds within
  the second.  Nanoseconds from 10⁹ on stand for a leap second: the clock
  then shows second 60 although the second of the day is the one that shows
  59.
-/
import Fanout.Calendar.Date
import Fanout.Calendar.Duration

namespace Fanout.Calendar

open Fanout.Number

/-! ## §1. The type. -/

/-- The seconds of a day. -/
def secondsPerDay : Nat := 86400

/-- A point in time. -/
structure DateTime where
  /-- The day. -/
  date : Date
  /-- The second of the day, from 0. -/
  second : Nat
  /-- The nanoseconds since the start of the second. -/
  nano : Nat
  /-- The second lies in the day. -/
  second_lt : second < secondsPerDay
  /-- A leap second is no longer than a second. -/
  nano_lt : nano < 2 * nanosPerSecond
  deriving DecidableEq

/-- The point in time with these parts, if there is one. -/
def DateTime.of? (date : Date) (second nano : Nat) : Option DateTime :=
  if h : second < secondsPerDay ∧ nano < 2 * nanosPerSecond then
    some ⟨date, second, nano, h.1, h.2⟩
  else none

/-- Is the point within a leap second? -/
def DateTime.isLeapSecond (t : DateTime) : Bool := decide (nanosPerSecond ≤ t.nano)

/-- The hour. -/
def DateTime.hour (t : DateTime) : Nat := t.second / 3600

/-- The minute of the hour. -/
def DateTime.minute (t : DateTime) : Nat := t.second / 60 % 60

/-- The second of the minute; 59 in a leap second. -/
def DateTime.secondOfMinute (t : DateTime) : Nat := t.second % 60

/-- The whole microseconds since the start of the second; a million or more in a leap
second. -/
def DateTime.micros (t : DateTime) : Nat := t.nano / 1000

/-- The seconds since the start of 1970; a leap second counts as the second before it. -/
def DateTime.epochSeconds (t : DateTime) : Int :=
  t.date.dayNumber * (secondsPerDay : Int) + (t.second : Int)

/-- Points in time are ordered by date, second and nanosecond. -/
def DateTime.order (a b : DateTime) : Ordering :=
  (a.date.order b.date).then ((compare a.second b.second).then (compare a.nano b.nano))

/-! ## §2. Differences. -/

/-- One leap second lies between two times of a day when the earlier one is in it. -/
def leapBetween (a b : DateTime) : Int :=
  if b.second < a.second ∧ b.isLeapSecond then 1
  else if a.second < b.second ∧ a.isLeapSecond then -1
  else 0

/-- The time from `b` to `a`.  The range of dates is so small that it always fits. -/
def DateTime.sub (a b : DateTime) : Option Duration :=
  let days := a.date.dayNumber - b.date.dayNumber
  let (seconds, nanos) :=
    carried ((a.second : Int) - (b.second : Int) + leapBetween a b)
      ((a.nano : Int) - (b.nano : Int))
  Duration.bounded? (days * (secondsPerDay : Int) + seconds) nanos

/-! ## §3. Moving a point in time. -/

/-- The whole seconds and the nanoseconds of a duration, both towards zero. -/
def Duration.towardsZero (d : Duration) : Int × Int :=
  (d.total.tdiv nanosPerSecond, d.total.tmod nanosPerSecond)

/-- The point with so many seconds since the start of a day, and a nanosecond. -/
def DateTime.onDay (dayNumber seconds : Int) (nano : Nat) : Option DateTime :=
  match Date.ofDayNumber? (dayNumber + seconds / (secondsPerDay : Int)) with
  | some date => DateTime.of? date (seconds % (secondsPerDay : Int)).toNat nano
  | none => none

/-- The point a duration later.  A leap second is only kept when the duration does not leave
it; leaving it backwards starts from the second after it. -/
def DateTime.add? (t : DateTime) (d : Duration) : Option DateTime :=
  let (seconds, nanos) := d.towardsZero
  let moved := (t.nano : Int) + nanos
  let day := t.date.dayNumber
  if t.isLeapSecond then
    if 0 < seconds ∨ (0 < nanos ∧ 2 * (nanosPerSecond : Int) ≤ moved) then
      let (s, n) := carried ((t.second : Int) + seconds) (moved - nanosPerSecond)
      DateTime.onDay day s n
    else if seconds < 0 then
      let (s, n) := carried ((t.second : Int) + 1 + seconds) (moved - nanosPerSecond)
      DateTime.onDay day s n
    else DateTime.of? t.date t.second moved.toNat
  else
    let (s, n) := carried ((t.second : Int) + seconds) moved
    DateTime.onDay day s n

/-- The point a duration earlier. -/
def DateTime.sub? (t : DateTime) (d : Duration) : Option DateTime := t.add? d.neg

end Fanout.Calendar
