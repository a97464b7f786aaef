/-
  Fanout.Proofs.Calendar.Duration
  ───────────────────────────────
  **Durations as numbers of nanoseconds.**

  A duration is told by its length.  Sums and differences make the exact
  length into a duration, with seconds that wrap around at 64 bits
  (`ofTotal?`); opposites and multiples do not wrap as long as the length
  stays *in reach*, within ±(2⁶³ − 1) seconds, and what they make is in
  reach again:

    • `Duration.order_eq` — the order of durations is that of their lengths,
    • `add?_eq`, `sub?_eq` — both come from the exact length,
    • `ofTotal?_eq_some_iff` — what becomes of a length,
    • `ofTotal?_exact_iff` — where the seconds wrap around and come back
      into the range of sums,
    • `InReach.total_neg`, `InReach.total_abs`, `mul?_eq_some_iff` — the
      other operations are exact or refused,
    • `InReach.neg`, `InReach.abs`, `inReach_of_mul?`,
      `inReach_of_bounded?` — no operation leaves the reach.
-/
import Fanout.Proofs.Number.Word
import Fanout.Calendar.Duration

namespace Fanout.Calendar

open Fanout.Number

/-! ## §1. Lengths. -/

namespace Duration

variable {a b d : Duration}

/-- The length in numbers. -/
theorem total_eq (d : Duration) : d.total = d.seconds.toInt * 1000000000 + d.nanos := rfl

theorem nanos_lt_second (d : Duration) : d.nanos < 1000000000 := d.nanos_lt

/-- **A duration is told by its length.** -/
theorem eq_of_total (h : a.total = b.total) : a = b := by
  have ha := a.nanos_lt_second
  have hb := b.nanos_lt_second
  rw [total_eq, total_eq] at h
  have hseconds : a.seconds = b.seconds := Int64.toInt_inj.mp (by omega)
  have hnanos : a.nanos = b.nanos := by omega
  cases a
  cases b
  simp only [mk.injEq]
  exact ⟨hseconds, hnanos⟩

end Duration

/-- Of numbers with a last digit the digits decide when the rest is the same. -/
theorem then_compare_eq {x y : Int} {p q base : Nat} (hp : p < base) (hq : q < base) :
    (compare x y).then (compare p q) = compare (x * base + p) (y * base + q) := by
  have hless : ∀ {x y : Int} {p q : Nat}, x < y → p < base → x * base + p < y * base + q := by
    intro x y p q hxy hpb
    have hstep : (x + 1) * (base : Int) ≤ y * base := Int.mul_le_mul_of_nonneg_right hxy (by omega)
    rw [Int.add_mul, Int.one_mul] at hstep
    omega
  rcases lt_trichotomy x y with h | h | h
  · rw [compare_lt_iff_lt.mpr h, compare_lt_iff_lt.mpr (hless h hp)]
    rfl
  · subst h
    rw [compare_eq_iff_eq.mpr rfl]
    show compare p q = _
    rcases lt_trichotomy p q with hd | hd | hd
    · rw [compare_lt_iff_lt.mpr hd, compare_lt_iff_lt.mpr (by omega)]
    · rw [compare_eq_iff_eq.mpr hd, compare_eq_iff_eq.mpr (by omega)]
    · rw [compare_gt_iff_gt.mpr hd, compare_gt_iff_gt.mpr (by omega)]
  · rw [compare_gt_iff_gt.mpr h, compare_gt_iff_gt.mpr (hless h hq)]
    rfl

/-- **Durations are ordered by their lengths.** -/
theorem Duration.order_eq (a b : Duration) : a.order b = compare a.total b.total :=
  then_compare_eq a.nanos_lt b.nanos_lt

/-- The duration of so many nanoseconds, with the seconds wrapped to 64 bits. -/
def ofLength (n : Int) : Duration :=
  ⟨Int64.ofInt (n / nanosPerSecond), (n % nanosPerSecond).toNat, by unfold nanosPerSecond; omega⟩

/-- The same, if it lies in the range of sums. -/
def ofTotal? (n : Int) : Option Duration :=
  Duration.bounded? (n / nanosPerSecond) (n % nanosPerSecond).toNat

/-- Carrying keeps the length. -/
theorem carried_eq (seconds nanos : Int) :
    carried seconds nanos = ((seconds * nanosPerSecond + nanos) / nanosPerSecond,
      ((seconds * nanosPerSecond + nanos) % nanosPerSecond).toNat) := by
  unfold carried nanosPerSecond
  rw [Prod.mk.injEq]
  constructor
  · omega
  · congr 1
    omega

namespace Duration

/-- **The sum comes from the sum of the lengths.** -/
theorem add?_eq (a b : Duration) : a.add? b = ofTotal? (a.total + b.total) := by
  have hsum : (a.seconds.toInt + b.seconds.toInt) * (nanosPerSecond : Int) + (a.nanos + b.nanos) =
      a.total + b.total := by
    rw [total_eq, total_eq]
    unfold nanosPerSecond
    omega
  unfold add? ofTotal?
  rw [carried_eq, hsum]

/-- **So does the difference.** -/
theorem sub?_eq (a b : Duration) : a.sub? b = ofTotal? (a.total - b.total) := by
  have hdiff : (a.seconds.toInt - b.seconds.toInt) * (nanosPerSecond : Int) + (a.nanos - b.nanos) =
      a.total - b.total := by
    rw [total_eq, total_eq]
    unfold nanosPerSecond
    omega
  unfold sub? ofTotal?
  rw [carried_eq, hdiff]

end Duration

/-! ## §2. Sums and differences. -/

/-- A length after its seconds have been wrapped to 64 bits. -/
def wrapped (n : Int) : Int := (n / 1000000000).bmod (2 ^ 64) * 1000000000 + n % 1000000000

theorem total_ofLength (n : Int) : (ofLength n).total = wrapped n := by
  show (Int64.ofInt (n / 1000000000)).toInt * 1000000000 + ((n % 1000000000).toNat : Int) = _
  have hsize : Int64.size = 2 ^ 64 := rfl
  rw [Int64.toInt_ofInt, hsize]
  unfold wrapped
  omega

/-- **What becomes of a length**: it is wrapped, and refused outside the range of sums. -/
theorem ofTotal?_eq (n : Int) :
    ofTotal? n = if -maxTotal ≤ wrapped n ∧ wrapped n ≤ maxTotal then some (ofLength n) else none := by
  have hnanos : (n % (nanosPerSecond : Int)).toNat < nanosPerSecond := (ofLength n).nanos_lt
  unfold ofTotal? Duration.bounded?
  rw [dif_pos hnanos, ← total_ofLength]
  rfl

theorem ofTotal?_eq_some_iff {n : Int} {d : Duration} :
    ofTotal? n = some d ↔ d.total = wrapped n ∧ -maxTotal ≤ wrapped n ∧ wrapped n ≤ maxTotal := by
  rw [ofTotal?_eq, ← total_ofLength]
  constructor
  · intro h
    split at h
    next hrange =>
      cases h
      exact ⟨rfl, hrange⟩
    next => cases h
  · rintro ⟨hd, hrange⟩
    rw [if_pos hrange, Duration.eq_of_total hd]

/-- Where a length comes back into the range of sums after it has been wrapped. -/
def comesBack : Int := 2 ^ 64 * 1000000000 - maxTotal

/-- Below it a length is kept or refused. -/
theorem ofTotal?_of_lt {n : Int} (hlow : -comesBack < n) (hhigh : n < comesBack) {d : Duration} :
    ofTotal? n = some d ↔ d.total = n ∧ -maxTotal ≤ n ∧ n ≤ maxTotal := by
  rw [ofTotal?_eq_some_iff]
  unfold comesBack maxTotal maxWord wrapped Int.bmod at *
  dsimp only
  constructor
  · rintro ⟨hd, hrange⟩
    split at hd <;> omega
  · rintro ⟨hd, hrange⟩
    split <;> omega

/-- From there on, up to twice the reach, it is kept as another one. -/
theorem exists_ofTotal?_of_ge {n : Int} (hback : n ≤ -comesBack ∨ comesBack ≤ n)
    (hlow : -(2 ^ 64 - 2) * 1000000000 ≤ n) (hhigh : n ≤ (2 ^ 64 - 2) * 1000000000) :
    ∃ d, ofTotal? n = some d ∧ d.total ≠ n := by
  have hwrapped : wrapped n ≠ n ∧ -maxTotal ≤ wrapped n ∧ wrapped n ≤ maxTotal := by
    unfold comesBack maxTotal maxWord wrapped Int.bmod at *
    dsimp only
    split <;> omega
  refine ⟨ofLength n, ?_, ?_⟩
  · rw [ofTotal?_eq, if_pos hwrapped.2]
  · rw [total_ofLength]
    exact hwrapped.1

/-! ## §3. The reach of durations. -/

/-- The greatest length in reach. -/
def maxReach : Int := maxWord * 1000000000

namespace Duration

variable {a b d e : Duration}

/-- The length lies within ±(2⁶³ − 1) seconds. -/
structure InReach (d : Duration) : Prop where
  /-- It is not below. -/
  low : -maxReach ≤ d.total
  /-- It is not above. -/
  high : d.total ≤ maxReach

/-- What is made within the bounds of sums is in reach. -/
theorem inReach_of_bounded? {seconds : Int} {nanos : Nat} (h : bounded? seconds nanos = some d) :
    d.InReach := by
  unfold bounded? at h
  split at h
  · dsimp only at h
    split at h
    next hrange =>
      cases h
      unfold maxTotal maxWord at hrange
      constructor <;> unfold maxReach maxWord <;> omega
    next => cases h
  · cases h

/-- **A sum or difference of lengths in reach is exact or refused below the length from which on
it comes back, and wrong from there on.** -/
theorem ofTotal?_exact_iff {n : Int} (hlow : -(2 * maxReach) ≤ n) (hhigh : n ≤ 2 * maxReach) :
    (∀ d, ofTotal? n = some d → d.total = n) ↔ -comesBack < n ∧ n < comesBack := by
  unfold maxReach maxWord at hlow hhigh
  constructor
  · intro hexact
    by_contra hout
    obtain ⟨d, hd, hne⟩ := exists_ofTotal?_of_ge (n := n) (by omega) (by omega) (by omega)
    exact hne (hexact d hd)
  · rintro ⟨hl, hh⟩ d hd
    exact ((ofTotal?_of_lt hl hh).mp hd).1

/-! ## §4. Opposites and multiples. -/

/-- **The opposite of a duration in reach has the opposite length.** -/
theorem InReach.total_neg (h : d.InReach) : d.neg.total = -d.total := by
  obtain ⟨hlow, hhigh⟩ := h
  have hnanos := d.nanos_lt_second
  unfold maxReach maxWord at hlow hhigh
  rw [total_eq] at hlow hhigh
  -- The seconds are not the smallest integer, and those of the opposite fit.
  have hseconds : (-d.seconds).toInt = -d.seconds.toInt := by
    rw [Int64.toInt_neg]
    exact Int.bmod_eq_of_le (by omega) (by omega)
  unfold neg
  split
  next hzero =>
    show (-d.seconds).toInt * 1000000000 + ((0 : Nat) : Int) = _
    rw [hseconds, total_eq, hzero]
    omega
  next hpos =>
    have hone : (1 : Int64).toInt = 1 := rfl
    have hborrow : (-d.seconds - 1).toInt = -d.seconds.toInt - 1 := by
      rw [toInt_sub_of_fits, hseconds, hone]
      · rw [hseconds, hone]
        unfold minWord
        omega
      · rw [hseconds, hone]
        unfold maxWord
        omega
    show (-d.seconds - 1).toInt * 1000000000 + ((1000000000 - d.nanos : Nat) : Int) = _
    rw [hborrow, total_eq]
    omega

theorem InReach.neg (h : d.InReach) : d.neg.InReach := by
  obtain ⟨hlow, hhigh⟩ := h
  constructor <;> rw [InReach.total_neg ⟨hlow, hhigh⟩] <;> omega

/-- A duration has negative seconds if its length is negative. -/
theorem seconds_neg_iff : d.seconds < 0 ↔ d.total < 0 := by
  have hnanos := d.nanos_lt_second
  have hzero : (0 : Int64).toInt = 0 := rfl
  rw [Int64.lt_iff_toInt_lt, hzero, total_eq]
  omega

/-- **The size of a duration in reach is the size of its length.** -/
theorem InReach.total_abs (h : d.InReach) : d.abs.total = |d.total| := by
  unfold abs
  split
  next hneg =>
    rw [h.total_neg, abs_of_neg (seconds_neg_iff.mp hneg)]
  next hpos =>
    rw [abs_of_nonneg]
    exact not_lt.mp fun hneg => hpos (seconds_neg_iff.mpr hneg)

theorem InReach.abs (h : d.InReach) : d.abs.InReach := by
  unfold Duration.abs
  split
  · exact h.neg
  · exact h

/-- **A multiple is exact or refused**: by a factor of more than 32 bits, and outside the reach. -/
theorem mul?_eq_some_iff {n : Int64} :
    d.mul? n = some e ↔ e.total = d.total * n.toInt ∧
      (minFactor ≤ n.toInt ∧ n.toInt ≤ maxFactor) ∧
      -maxReach ≤ d.total * n.toInt ∧ d.total * n.toInt < maxReach := by
  have hlength : d.seconds.toInt * n.toInt * (nanosPerSecond : Int) + d.nanos * n.toInt =
      d.total * n.toInt := by
    rw [total_eq]
    unfold nanosPerSecond
    ring
  unfold mul?
  dsimp only
  rw [carried_eq, hlength]
  generalize d.total * n.toInt = m
  unfold minWord maxReach maxWord nanosPerSecond
  constructor
  · intro h
    split at h
    next hfactor =>
      split at h
      next hfits =>
        cases h
        refine ⟨?_, hfactor, by omega, by omega⟩
        show (Int64.ofInt (m / 1000000000)).toInt * 1000000000 + ((m % 1000000000).toNat : Int) = m
        rw [Int64.toInt_ofInt_of_le (by omega) (by omega)]
        omega
      next => cases h
    next => cases h
  · rintro ⟨htotal, hfactor, hlow, hhigh⟩
    rw [if_pos hfactor, dif_pos (by omega)]
    refine congrArg some (eq_of_total ?_)
    show (Int64.ofInt (m / 1000000000)).toInt * 1000000000 + ((m % 1000000000).toNat : Int) = _
    rw [Int64.toInt_ofInt_of_le (by omega) (by omega), htotal]
    omega

theorem inReach_of_mul? {n : Int64} (h : d.mul? n = some e) : e.InReach := by
  obtain ⟨htotal, -, hlow, hhigh⟩ := mul?_eq_some_iff.mp h
  exact ⟨by omega, by omega⟩

end Duration

end Fanout.Calendar
