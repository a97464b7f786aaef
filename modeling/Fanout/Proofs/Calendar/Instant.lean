/-
  Fanout.Proofs.Calendar.Instant
  ──────────────────────────────
  **Points in time as numbers of nanoseconds.**

  Outside leap seconds a point in time is told by the nanoseconds that have
  passed since the start of 1970, and the calculus of points and durations
  is that of integers:

    • `DateTime.order_eq` — the later point has the greater number,
    • `DateTime.exists_sub` — the time between two points is their difference,
      and there always is such a duration,
    • `DateTime.add?_eq_some_iff`, `DateTime.sub?_eq_some_iff` — a point moved
      by a duration, unless it leaves the calendar.
-/
import Fanout.Proofs.Calendar.DayNumber
import Fanout.Proofs.Calendar.Duration
import Fanout.Calendar.DateTime

namespace Fanout.Calendar

open Fanout.Number

namespace DateTime

variable {a b t u : DateTime} {d : Duration}

/-! ## §1. The number of a point in time. -/

/-- The nanoseconds since the start of 1970. -/
def instant (t : DateTime) : Int := t.epochSeconds * 1000000000 + t.nano

/-- The number from the day and the second of the day. -/
theorem instant_eq (t : DateTime) :
    t.instant = (t.date.dayNumber * 86400 + t.second) * 1000000000 + t.nano := rfl

/-- The first moment of a day. -/
def startOf (date : Date) : DateTime := ⟨date, 0, 0, by decide, by decide⟩

theorem second_lt_day (t : DateTime) : t.second < 86400 := t.second_lt

/-- Outside leap seconds the nanoseconds make less than a second. -/
theorem nano_lt_second (h : t.isLeapSecond = false) : t.nano < 1000000000 := by
  have hshort : ¬ nanosPerSecond ≤ t.nano := by simpa [isLeapSecond] using h
  unfold nanosPerSecond at hshort
  omega

theorem isLeapSecond_eq_false (h : t.nano < 1000000000) : t.isLeapSecond = false := by
  have hshort : ¬ nanosPerSecond ≤ t.nano := by unfold nanosPerSecond; omega
  simpa [isLeapSecond] using hshort

/-- **A point is told by its number.** -/
theorem eq_of_instant (ha : a.isLeapSecond = false) (hb : b.isLeapSecond = false)
    (h : a.instant = b.instant) : a = b := by
  have hna := nano_lt_second ha
  have hnb := nano_lt_second hb
  have hsa := a.second_lt_day
  have hsb := b.second_lt_day
  rw [instant_eq, instant_eq] at h
  have hdate : a.date = b.date := Date.dayNumber_injective (by omega)
  have hsecond : a.second = b.second := by omega
  have hnano : a.nano = b.nano := by omega
  cases a
  cases b
  simp only [mk.injEq]
  exact ⟨hdate, hsecond, hnano⟩

/-- **Points are ordered by their numbers.** -/
theorem order_eq (ha : a.isLeapSecond = false) (hb : b.isLeapSecond = false) :
    a.order b = compare a.instant b.instant := by
  unfold order
  rw [Date.order_eq, ← Ordering.then_assoc, then_compare_eq a.second_lt b.second_lt,
    then_compare_eq (nano_lt_second ha) (nano_lt_second hb)]
  rfl

/-- The calendar has less than 10²² nanoseconds on each side of 1970. -/
theorem natAbs_instant_lt (h : t.isLeapSecond = false) :
    t.instant.natAbs < 10000000000000000000000 := by
  have hday := t.date.natAbs_dayNumber_lt
  have hsecond := t.second_lt_day
  have hnano := nano_lt_second h
  rw [instant_eq]
  omega

/-! ## §2. Differences. -/

/-- The difference of two points comes from the difference of their numbers. -/
theorem sub_eq (ha : a.isLeapSecond = false) (hb : b.isLeapSecond = false) :
    a.sub b = ofTotal? (a.instant - b.instant) := by
  have hleap : leapBetween a b = 0 := by
    unfold leapBetween
    rw [ha, hb]
    simp
  have hdiff : a.instant - b.instant =
      (a.date.dayNumber - b.date.dayNumber) * 86400 * 1000000000 +
        (((a.second : Int) - b.second) * 1000000000 + ((a.nano : Int) - b.nano)) := by
    rw [instant_eq, instant_eq]
    omega
  unfold sub ofTotal?
  rw [hleap, carried_eq, Int.add_zero, hdiff]
  unfold secondsPerDay nanosPerSecond
  -- Whole days are no part of what is carried.
  dsimp only
  congr 1
  · omega
  · omega

/-- **The time between two points is the difference of their numbers**, and there is such a
duration for any two of them. -/
theorem exists_sub (ha : a.isLeapSecond = false) (hb : b.isLeapSecond = false) :
    ∃ d, a.sub b = some d ∧ d.total = a.instant - b.instant := by
  have hna := natAbs_instant_lt ha
  have hnb := natAbs_instant_lt hb
  have hwrapped : wrapped (a.instant - b.instant) = a.instant - b.instant := by
    unfold wrapped
    rw [Int.bmod_eq_of_le (by omega) (by omega)]
    omega
  refine ⟨ofLength (a.instant - b.instant), ?_, by rw [total_ofLength, hwrapped]⟩
  rw [sub_eq ha hb, ofTotal?_eq, if_pos]
  rw [hwrapped]
  unfold maxTotal maxWord
  omega

/-! ## §3. Moved points. -/

/-- The point so many seconds after the start of a day. -/
theorem onDay_eq_some_iff {day seconds : Int} {nano : Nat} (hnano : nano < 1000000000) :
    onDay day seconds nano = some u ↔
      u.isLeapSecond = false ∧ u.instant = (day * 86400 + seconds) * 1000000000 + nano := by
  have hclock : (seconds % (secondsPerDay : Int)).toNat < secondsPerDay ∧ nano < 2 * nanosPerSecond := by
    unfold secondsPerDay nanosPerSecond
    omega
  have hfound : ∀ date, Date.ofDayNumber? (day + seconds / (secondsPerDay : Int)) = some date ↔
      date.dayNumber = day + seconds / 86400 := fun date => Date.ofDayNumber?_eq_some_iff
  unfold onDay of?
  constructor
  · intro h
    split at h
    next date hdate =>
      rw [dif_pos hclock] at h
      cases h
      refine ⟨isLeapSecond_eq_false hnano, ?_⟩
      rw [instant_eq]
      show (date.dayNumber * 86400 + ((seconds % 86400).toNat : Int)) * 1000000000 + nano = _
      rw [(hfound date).mp hdate]
      omega
    next => cases h
  · rintro ⟨hleap, hinstant⟩
    have hu := nano_lt_second hleap
    have hsecond := u.second_lt_day
    rw [instant_eq] at hinstant
    rw [(hfound u.date).mpr (by omega)]
    dsimp only
    rw [dif_pos hclock]
    refine congrArg some (eq_of_instant (isLeapSecond_eq_false hnano) hleap ?_)
    show (u.date.dayNumber * 86400 + ((seconds % 86400).toNat : Int)) * 1000000000 + nano = _
    rw [instant_eq]
    omega

/-- **A point moved by a duration**: the numbers are added, and the sum is refused exactly if no
point of the calendar has it. -/
theorem add?_eq_some_iff (ht : t.isLeapSecond = false) :
    t.add? d = some u ↔ u.isLeapSecond = false ∧ u.instant = t.instant + d.total := by
  have hnano := nano_lt_second ht
  have hparts : d.towardsZero.1 * 1000000000 + d.towardsZero.2 = d.total :=
    Int.tdiv_mul_add_tmod d.total 1000000000
  unfold add?
  dsimp only
  rw [ht, if_neg (by decide), carried_eq]
  unfold nanosPerSecond
  rw [onDay_eq_some_iff (by omega), instant_eq t]
  have hinstant : (t.date.dayNumber * 86400 + (((t.second : Int) + d.towardsZero.1) * (1000000000 : Nat) +
      ((t.nano : Int) + d.towardsZero.2)) / (1000000000 : Nat)) * 1000000000 +
      ((((t.second : Int) + d.towardsZero.1) * (1000000000 : Nat) +
        ((t.nano : Int) + d.towardsZero.2)) % (1000000000 : Nat)).toNat =
      (t.date.dayNumber * 86400 + t.second) * 1000000000 + t.nano + d.total := by
    omega
  rw [hinstant]

/-- A point moved backwards by a duration in reach. -/
theorem sub?_eq_some_iff (ht : t.isLeapSecond = false) (hd : d.InReach) :
    t.sub? d = some u ↔ u.isLeapSecond = false ∧ u.instant = t.instant - d.total := by
  unfold sub?
  rw [add?_eq_some_iff ht, hd.total_neg]
  rfl

end DateTime

end Fanout.Calendar
