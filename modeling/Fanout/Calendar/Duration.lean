/-
  Fanout.Calendar.Duration
  ────────────────────────
  **Spans of time.**

  A duration is a number of seconds, which may be negative, and a number of
  nanoseconds counted upwards from there.  Sums and differences are
  refused outside ±(2⁶³ − 1) milliseconds.  Multiples are only refused when
  the seconds no longer fit into 64 bits, so a multiple can lie outside
  that range, and the seconds of a sum are counted modulo 2⁶⁴ before they
  are examined.
-/
import Fanout.Number.Word

namespace Fanout.Calendar

open Fanout.Number

/-! ## §1. Durations. -/

/-- The nanoseconds of a second. -/
def nanosPerSecond : Nat := 1000000000

/-- A span of time of `seconds + nanos / 10⁹` seconds. -/
structure Duration where
  /-- The whole seconds, rounded down. -/
  seconds : Int64
  /-- The nanoseconds on top of them. -/
  nanos : Nat
  /-- They make less than a second. -/
  nanos_lt : nanos < nanosPerSecond
  deriving DecidableEq

/-- The length in nanoseconds. -/
def Duration.total (d : Duration) : Int := d.seconds.toInt * nanosPerSecond + d.nanos

/-- The greatest length of a sum, in nanoseconds. -/
def maxTotal : Int := maxWord * 1000000

/-- The duration of so many seconds, wrapped to 64 bits, and nanoseconds, if it lies in the
range of sums. -/
def Duration.bounded? (seconds : Int) (nanos : Nat) : Option Duration :=
  if h : nanos < nanosPerSecond then
    let d : Duration := ⟨Int64.ofInt seconds, nanos, h⟩
    if -maxTotal ≤ d.total ∧ d.total ≤ maxTotal then some d else none
  else none

/-- Brings nanoseconds into one second and carries the rest over. -/
def carried (seconds nanos : Int) : Int × Nat :=
  (seconds + nanos / nanosPerSecond, (nanos % nanosPerSecond).toNat)

/-! ## §2. Arithmetic. -/

/-- The sum of two durations. -/
def Duration.add? (a b : Duration) : Option Duration :=
  let (seconds, nanos) := carried (a.seconds.toInt + b.seconds.toInt) (a.nanos + b.nanos : Int)
  Duration.bounded? seconds nanos

/-- The difference of two durations. -/
def Duration.sub? (a b : Duration) : Option Duration :=
  let (seconds, nanos) := carried (a.seconds.toInt - b.seconds.toInt) (a.nanos - b.nanos : Int)
  Duration.bounded? seconds nanos

/-- The seconds and nanoseconds of the opposite duration. -/
def Duration.neg (d : Duration) : Duration :=
  if h : d.nanos = 0 then ⟨-d.seconds, 0, by decide⟩
  else ⟨-d.seconds - 1, nanosPerSecond - d.nanos, by have := d.nanos_lt; omega⟩

/-- The length without its sign. -/
def Duration.abs (d : Duration) : Duration := if d.seconds < 0 then d.neg else d

/-- The smallest factor of a multiplication. -/
def minFactor : Int := -2147483648

/-- The largest factor of a multiplication. -/
def maxFactor : Int := 2147483647

/-- A multiple of a duration, by a factor of 32 bits. -/
def Duration.mul? (d : Duration) (n : Int64) : Option Duration :=
  let factor := n.toInt
  if minFactor ≤ factor ∧ factor ≤ maxFactor then
    let (seconds, nanos) := carried (d.seconds.toInt * factor) (d.nanos * factor)
    if h : minWord < seconds ∧ seconds < maxWord ∧ nanos < nanosPerSecond then
      some ⟨Int64.ofInt seconds, nanos, h.2.2⟩
    else none
  else none

/-- Does the duration have no length? -/
def Duration.isZero (d : Duration) : Bool := d.seconds == 0 && d.nanos == 0

/-- Durations are ordered by their length. -/
def Duration.order (a b : Duration) : Ordering :=
  (compare a.seconds.toInt b.seconds.toInt).then (compare a.nanos b.nanos)

/-! ## §3. Days, seconds and microseconds. -/

/-- The whole microseconds, without the fraction towards zero, if 64 bits hold them. -/
def Duration.micros? (d : Duration) : Option Int64 := narrow? (d.total.tdiv 1000)

/-- The microseconds of a day. -/
def microsPerDay : Int := 86400 * 1000000

/-- A duration in days, of which alone there may be a negative number, seconds of a day and
microseconds of a second. -/
structure DurationParts where
  /-- Whole days, rounded down. -/
  days : Int
  /-- Seconds of the day. -/
  seconds : Int
  /-- Microseconds of the second. -/
  micros : Int
  deriving DecidableEq, Repr

/-- The parts of so many microseconds. -/
def DurationParts.ofMicros (total : Int) : DurationParts :=
  let rest := total % microsPerDay
  { days := total / microsPerDay, seconds := rest / 1000000, micros := rest % 1000000 }

/-- The parts of a duration; one too long for 64 bits of microseconds counts as the longest. -/
def Duration.parts (d : Duration) : DurationParts :=
  DurationParts.ofMicros ((d.micros?.map Int64.toInt).getD maxWord)

end Fanout.Calendar
