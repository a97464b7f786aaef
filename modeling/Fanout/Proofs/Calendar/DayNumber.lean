/-
  Fanout.Proofs.Calendar.DayNumber
  ────────────────────────────────
  **Dates are counted without gaps.**

  The day number of a date grows with the date, and every number between
  the first and the last day of the calendar is that of one date:

    • `yearStart_succ`, `daysBeforeMonth_succ` — a year begins where the one
      before it ends, and so does a month,
    • `Date.order_eq` — dates are ordered by their day numbers,
    • `yearOfDay_spec`, `splitMonths_spec` — the year and the month that
      hold a day,
    • `Date.ofDayNumber?_eq_some_iff` — a date is found from its day number,
      and no other one is.
-/
import Fanout.Calendar.Date
import Mathlib.Algebra.Order.Ring.Int
import Mathlib.Order.Compare

namespace Fanout.Calendar

/-! ## §1. Years. -/

/-- The number of days of a year. -/
def yearLength (year : Int) : Nat := if isLeapYear year then 366 else 365

/-- **A year begins where the one before it ends.** -/
theorem yearStart_succ (year : Int) : yearStart (year + 1) = yearStart year + yearLength year := by
  have hleap : isLeapYear year = true ↔ year % 4 = 0 ∧ (year % 100 ≠ 0 ∨ year % 400 = 0) := by
    simp [isLeapYear]
  unfold yearStart yearLength
  by_cases h : isLeapYear year = true
  · have hcond := hleap.mp h
    rw [if_pos h]
    omega
  · have hcond : ¬ (year % 4 = 0 ∧ (year % 100 ≠ 0 ∨ year % 400 = 0)) := fun hc => h (hleap.mpr hc)
    rw [if_neg h]
    omega

/-- Later years begin later. -/
theorem yearStart_add_le {a b : Int} (h : a < b) : yearStart (a + 1) ≤ yearStart b := by
  unfold yearStart
  omega

/-- **The year that holds a day number.** -/
theorem yearOfDay_spec (n : Int) :
    yearStart (yearOfDay n) ≤ n ∧ n < yearStart (yearOfDay n + 1) := by
  -- The estimate is at most one year off.
  have hguess : yearStart (n * 400 / 146097 + 1970 - 1) ≤ n ∧
      n < yearStart (n * 400 / 146097 + 1970 + 1 + 1) := by
    unfold yearStart
    omega
  unfold yearOfDay
  generalize n * 400 / 146097 + 1970 = guess at *
  by_cases hearly : n < yearStart guess
  · rw [if_pos hearly, Int.sub_add_cancel]
    exact ⟨hguess.1, hearly⟩
  · rw [if_neg hearly]
    by_cases hlate : yearStart (guess + 1) ≤ n
    · rw [if_pos hlate]
      exact ⟨hlate, hguess.2⟩
    · rw [if_neg hlate]
      exact ⟨by omega, by omega⟩

/-- No other year holds it. -/
theorem eq_yearOfDay {n year : Int} (hlow : yearStart year ≤ n) (hhigh : n < yearStart (year + 1)) :
    year = yearOfDay n := by
  obtain ⟨hstart, hend⟩ := yearOfDay_spec n
  by_contra hne
  rcases Int.lt_or_gt_of_ne hne with h | h
  · have := yearStart_add_le h
    omega
  · have := yearStart_add_le h
    omega

/-! ## §2. Months. -/

/-- Months are no longer than twelve to the year. -/
theorem month_mem_of_isDate {year : Int} {month day : Nat} (h : IsDate year month day) :
    1 ≤ month ∧ month ≤ 12 := by
  obtain ⟨-, -, hpos, hday⟩ := h
  unfold daysInMonth at hday
  by_cases hzero : month = 0
  · rw [if_pos hzero] at hday
    omega
  · rw [if_neg hzero, List.getD_eq_getElem?_getD] at hday
    refine ⟨by omega, Nat.le_of_not_lt fun hlong => ?_⟩
    rw [List.getElem?_eq_none (by show 12 ≤ month - 1; omega)] at hday
    exact absurd hday (by show ¬ day ≤ 0; omega)

/-- The days before a month are those before the month ahead of it, and that one. -/
theorem daysBeforeMonth_succ (year : Int) {month : Nat} (h : 1 ≤ month ∧ month ≤ 12) :
    daysBeforeMonth year (month + 1) = daysBeforeMonth year month + daysInMonth year month := by
  have hall : ∀ leap, ∀ i < 12, ((monthLengths leap).take (i + 1)).foldr (· + ·) 0 =
      ((monthLengths leap).take i).foldr (· + ·) 0 + (monthLengths leap).getD i 0 := by decide
  obtain ⟨i, rfl⟩ : ∃ i, month = i + 1 := ⟨month - 1, by omega⟩
  exact hall (isLeapYear year) i (by omega)

/-- All twelve months make up the year. -/
theorem daysBeforeMonth_end (year : Int) : daysBeforeMonth year 13 = yearLength year := by
  have hall : ∀ leap, ((monthLengths leap).take 12).foldr (· + ·) 0 = if leap then 366 else 365 := by
    decide
  exact hall (isLeapYear year)

/-- Later months begin later. -/
theorem daysBeforeMonth_mono (year : Int) {a b : Nat} (h : a ≤ b) :
    daysBeforeMonth year a ≤ daysBeforeMonth year b := by
  have hsum : ∀ (lengths : List Nat) (i j : Nat), i ≤ j →
      (lengths.take i).sum ≤ (lengths.take j).sum := by
    intro lengths
    induction lengths with
    | nil => simp
    | cons length rest ih =>
        intro i j hij
        cases i with
        | zero => simp
        | succ i =>
            obtain ⟨k, rfl⟩ : ∃ k, j = k + 1 := ⟨j - 1, by omega⟩
            have := ih i k (by omega)
            simp only [List.take_succ_cons, List.sum_cons]
            omega
  exact hsum _ (a - 1) (b - 1) (by omega)

/-! ## §3. The order of dates. -/

namespace Date

variable (d : Date)

/-- The day of the year lies in the month. -/
theorem dayOfYear_mem : daysBeforeMonth d.year d.month < d.dayOfYear ∧
    d.dayOfYear ≤ daysBeforeMonth d.year (d.month + 1) := by
  obtain ⟨-, -, hpos, hday⟩ := d.isDate
  rw [daysBeforeMonth_succ d.year (month_mem_of_isDate d.isDate)]
  unfold dayOfYear
  omega

/-- The day lies in the year. -/
theorem dayNumber_mem : yearStart d.year ≤ d.dayNumber ∧ d.dayNumber < yearStart (d.year + 1) := by
  obtain ⟨hlow, hhigh⟩ := d.dayOfYear_mem
  have hmonth := month_mem_of_isDate d.isDate
  have hend := daysBeforeMonth_mono d.year (show d.month + 1 ≤ 13 by omega)
  rw [daysBeforeMonth_end] at hend
  rw [yearStart_succ]
  unfold dayNumber
  omega

/-- The calendar has less than 10⁸ days on each side of 1970. -/
theorem natAbs_dayNumber_lt : d.dayNumber.natAbs < 100000000 := by
  obtain ⟨hlow, hhigh⟩ := d.dayNumber_mem
  obtain ⟨hmin, hmax, -⟩ := d.isDate
  unfold minYear at hmin
  unfold maxYear at hmax
  unfold yearStart at *
  omega

variable {a b : Date}

/-- **Dates are ordered by their day numbers.** -/
theorem order_eq (a b : Date) : a.order b = compare a.dayNumber b.dayNumber := by
  have hyear : ∀ {a b : Date}, a.year < b.year → a.dayNumber < b.dayNumber := fun {a b} h => by
    have := yearStart_add_le h
    have := a.dayNumber_mem
    have := b.dayNumber_mem
    omega
  have hmonth : ∀ {a b : Date}, a.year = b.year → a.month < b.month →
      a.dayNumber < b.dayNumber := fun {a b} hy h => by
    have hbefore := daysBeforeMonth_mono b.year (show a.month + 1 ≤ b.month by omega)
    have ha := a.dayOfYear_mem
    have hb := b.dayOfYear_mem
    rw [hy] at ha
    unfold dayNumber
    rw [hy]
    omega
  unfold order
  rcases lt_trichotomy a.year b.year with h | h | h
  · rw [compare_lt_iff_lt.mpr h, compare_lt_iff_lt.mpr (hyear h)]
    rfl
  · rw [compare_eq_iff_eq.mpr h]
    show (compare a.month b.month).then (compare a.day b.day) = _
    rcases lt_trichotomy a.month b.month with hm | hm | hm
    · rw [compare_lt_iff_lt.mpr hm, compare_lt_iff_lt.mpr (hmonth h hm)]
      rfl
    · -- In one month the days decide.
      rw [compare_eq_iff_eq.mpr hm]
      show compare a.day b.day = _
      have hdays : a.dayNumber - b.dayNumber = (a.day : Int) - b.day := by
        unfold dayNumber dayOfYear
        rw [h, hm]
        omega
      rcases lt_trichotomy a.day b.day with hd | hd | hd
      · rw [compare_lt_iff_lt.mpr hd, compare_lt_iff_lt.mpr (by omega)]
      · rw [compare_eq_iff_eq.mpr hd, compare_eq_iff_eq.mpr (by omega)]
      · rw [compare_gt_iff_gt.mpr hd, compare_gt_iff_gt.mpr (by omega)]
    · rw [compare_gt_iff_gt.mpr hm, compare_gt_iff_gt.mpr (hmonth h.symm hm)]
      rfl
  · rw [compare_gt_iff_gt.mpr h, compare_gt_iff_gt.mpr (hyear h)]
    rfl

/-- Different dates have different day numbers. -/
theorem dayNumber_injective (h : a.dayNumber = b.dayNumber) : a = b := by
  have horder : a.order b = .eq := by rw [order_eq, h, compare_eq_iff_eq]
  unfold order at horder
  simp only [Ordering.then_eq_eq, compare_eq_iff_eq] at horder
  cases a
  cases b
  simpa using horder

end Date

/-! ## §4. From day numbers to dates. -/

/-- **The month that holds a day**, among months of these lengths. -/
theorem splitMonths_spec : ∀ (lengths : List Nat) (first n : Nat), n < lengths.sum →
    ∃ i r, splitMonths lengths first n = (first + i, r + 1) ∧ (lengths.take i).sum + r = n ∧
      r < lengths.getD i 0 := by
  intro lengths
  induction lengths with
  | nil => simp
  | cons length rest ih =>
      intro first n hn
      rw [splitMonths]
      by_cases h : n < length
      · exact ⟨0, n, by rw [if_pos h]; rfl, by simp, by simpa using h⟩
      · -- The day lies in one of the other months, counted from the end of this one.
        rw [List.sum_cons] at hn
        obtain ⟨i, r, hsplit, hsum, hr⟩ := ih (first + 1) (n - length) (by omega)
        refine ⟨i + 1, r, ?_, ?_, by simpa using hr⟩
        · rw [if_neg h, hsplit, Nat.add_assoc, Nat.add_comm 1 i]
        · rw [List.take_succ_cons, List.sum_cons]
          omega

/-- The parts that a day number is split into. -/
theorem exists_split (n : Int) :
    ∃ month day, splitMonths (monthLengths (isLeapYear (yearOfDay n))) 1
        (n - yearStart (yearOfDay n)).toNat = (month, day) ∧
      1 ≤ day ∧ day ≤ daysInMonth (yearOfDay n) month ∧
      yearStart (yearOfDay n) + (daysBeforeMonth (yearOfDay n) month + day : Nat) - 1 = n := by
  obtain ⟨hlow, hhigh⟩ := yearOfDay_spec n
  generalize yearOfDay n = year at *
  rw [yearStart_succ] at hhigh
  have hlength : (monthLengths (isLeapYear year)).sum = yearLength year :=
    daysBeforeMonth_end year
  obtain ⟨i, r, hsplit, hsum, hr⟩ := splitMonths_spec (monthLengths (isLeapYear year)) 1
    (n - yearStart year).toNat (by omega)
  have hdays : daysInMonth year (1 + i) = (monthLengths (isLeapYear year)).getD i 0 := by
    unfold daysInMonth
    rw [if_neg (by omega), Nat.add_sub_cancel_left]
  have hbefore : daysBeforeMonth year (1 + i) = ((monthLengths (isLeapYear year)).take i).sum := by
    unfold daysBeforeMonth
    rw [Nat.add_sub_cancel_left]
    rfl
  exact ⟨1 + i, r + 1, hsplit, by omega, by omega, by omega⟩

/-- **A date is found from its day number, and no other date is.** -/
theorem Date.ofDayNumber?_eq_some_iff {n : Int} {d : Date} :
    Date.ofDayNumber? n = some d ↔ d.dayNumber = n := by
  obtain ⟨month, day, hsplit, hpos, hday, hnumber⟩ := exists_split n
  have hof : Date.ofDayNumber? n = Date.of? (yearOfDay n) month day := by
    unfold Date.ofDayNumber?
    dsimp only
    rw [hsplit]
  rw [hof]
  unfold Date.of?
  constructor
  · intro h
    split at h
    · cases h
      exact hnumber
    · cases h
  · rintro rfl
    -- The year of the date is in the range, and the rest is the split.
    obtain ⟨hlow, hhigh⟩ := d.dayNumber_mem
    obtain ⟨hmin, hmax, -⟩ := d.isDate
    have hyear := eq_yearOfDay hlow hhigh
    have hdate : IsDate (yearOfDay d.dayNumber) month day := by
      rw [← hyear] at hday ⊢
      exact ⟨hmin, hmax, hpos, hday⟩
    rw [dif_pos hdate]
    exact congrArg some (Date.dayNumber_injective hnumber)

end Fanout.Calendar
