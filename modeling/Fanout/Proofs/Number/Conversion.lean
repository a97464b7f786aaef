/-
  Fanout.Proofs.Number.Conversion
  ───────────────────────────────
  **Integers as floats.**

  No float lies between an integer and the float nearest to it.  An integer
  is therefore never beyond a float that the float nearest to it has not
  reached, and the other way round.

    • `rank_floatOfInt_le`, `le_rank_floatOfInt` — a float on one side of an
      integer is not beyond the float nearest to it,
    • `rank_floatOfInt_mono` — larger integers, larger floats,
    • `signedUnits_floatOfInt` — up to 2⁵³ integers are floats.
-/
import Fanout.Proofs.Number.Nearest
import Fanout.Proofs.Number.Word

namespace Fanout.Number

/-! ## §1. Signs. -/

theorem rank_ofMagnitudeBits (negative : Bool) {k : Nat} (h : k ≤ infinityBits) :
    rank (ofMagnitudeBits negative k) = if negative then -(k : Int) else k := by
  rw [rank, isNegative_ofMagnitudeBits negative h, magnitudeBits_ofMagnitudeBits negative h]

theorem isNaN_floatOfInt (n : Int) : isNaN (floatOfInt n) = false :=
  isNaN_ofMagnitudeBits _ (nearestBits_le_infinityBits _ Nat.one_pos)

theorem rank_floatOfInt_natCast (k : Nat) : rank (floatOfInt k) = nearestBits k 1 := by
  rw [floatOfInt, nearest, rank_ofMagnitudeBits _ (nearestBits_le_infinityBits _ Nat.one_pos),
    decide_eq_false (by omega)]
  rfl

theorem rank_floatOfInt_neg (n : Int) : rank (floatOfInt (-n)) = -rank (floatOfInt n) := by
  rcases eq_or_ne n 0 with rfl | hn
  · have hzero : rank (floatOfInt 0) = 0 := rank_floatOfInt_natCast 0
    rw [neg_zero, hzero, neg_zero]
  · rw [floatOfInt, floatOfInt, nearest, nearest, Int.natAbs_neg,
      rank_ofMagnitudeBits _ (nearestBits_le_infinityBits _ Nat.one_pos),
      rank_ofMagnitudeBits _ (nearestBits_le_infinityBits _ Nat.one_pos)]
    by_cases h : n < 0
    · simp [h, h.le]
    · simp [h, show 0 < n by omega]

/-! ## §2. Neighbours. -/

theorem exactUnits_one (k : Nat) : exactUnits k 1 = ((k * unitsOfOne : Nat) : ℚ) := by
  simp [exactUnits]

/-- A place among the floats that an integer does not reach beyond, in units, is not below the place
of the float nearest to the integer. -/
theorem rank_floatOfInt_le_of_units {n r : Int} (hr : r.natAbs ≤ infinityBits)
    (h : n * unitsOfOne ≤ unitsOfRank r) : rank (floatOfInt n) ≤ r := by
  obtain ⟨k, rfl | rfl⟩ := n.eq_nat_or_neg <;> obtain ⟨j, rfl | rfl⟩ := r.eq_nat_or_neg <;>
    simp only [rank_floatOfInt_neg, rank_floatOfInt_natCast, unitsOfRank_neg, unitsOfRank_natCast]
      at h ⊢
  · have hle : exactUnits k 1 ≤ units j := by
      rw [exactUnits_one]
      exact_mod_cast h
    exact_mod_cast nearestBits_le Nat.one_pos hle
  · -- Both are 0.
    have hle : exactUnits k 1 ≤ units 0 := by
      rw [exactUnits_one, units_zero]
      exact_mod_cast (by omega : (k : Int) * unitsOfOne ≤ 0)
    have hzero := nearestBits_le Nat.one_pos hle
    have hj : j = 0 := by
      by_contra hj
      have hpos : units 0 < units j := units_strictMono (by omega)
      have hnonneg : (0 : Int) ≤ k * unitsOfOne := by positivity
      omega
    omega
  · omega
  · have hle : (units j : ℚ) ≤ exactUnits k 1 := by
      rw [exactUnits_one]
      exact_mod_cast (by linarith : (units j : Int) ≤ k * unitsOfOne)
    have hbits := le_nearestBits Nat.one_pos (by simpa using hr) hle
    omega

theorem natAbs_rank_le {x : Float} (h : isNaN x = false) : (rank x).natAbs ≤ infinityBits := by
  have hbits := magnitudeBits_le h
  unfold rank
  split <;> omega

/-- **A float that is not below an integer is not below the float nearest to it.** -/
theorem rank_floatOfInt_le {n : Int} {x : Float} (hx : isNaN x = false)
    (h : n * unitsOfOne ≤ signedUnits x) : rank (floatOfInt n) ≤ rank x :=
  rank_floatOfInt_le_of_units (natAbs_rank_le hx) h

/-- **A float that is not above an integer is not above the float nearest to it.** -/
theorem le_rank_floatOfInt {n : Int} {x : Float} (hx : isNaN x = false)
    (h : signedUnits x ≤ n * unitsOfOne) : rank x ≤ rank (floatOfInt n) := by
  have hle : rank (floatOfInt (-n)) ≤ -rank x := by
    refine rank_floatOfInt_le_of_units ?_ ?_
    · rw [Int.natAbs_neg]
      exact natAbs_rank_le hx
    · rw [unitsOfRank_neg, Int.neg_mul]
      exact neg_le_neg h
  rw [rank_floatOfInt_neg] at hle
  omega

/-- **Larger integers have larger floats.** -/
theorem rank_floatOfInt_mono : Monotone fun n => rank (floatOfInt n) := by
  have hnat : ∀ {j k : Nat}, j ≤ k → nearestBits j 1 ≤ nearestBits k 1 := by
    intro j k hjk
    refine nearestBits_mono Nat.one_pos Nat.one_pos ?_
    rw [exactUnits_one, exactUnits_one]
    exact_mod_cast Nat.mul_le_mul_right _ hjk
  intro m n h
  obtain ⟨j, rfl | rfl⟩ := m.eq_nat_or_neg <;> obtain ⟨k, rfl | rfl⟩ := n.eq_nat_or_neg <;>
    simp only [rank_floatOfInt_neg, rank_floatOfInt_natCast]
  · exact_mod_cast hnat (by omega)
  · obtain ⟨rfl, rfl⟩ : j = 0 ∧ k = 0 := by omega
    exact le_refl 0
  · omega
  · have := hnat (show k ≤ j by omega)
    omega

/-! ## §3. Exact conversions. -/

/-- Up to 2⁵³ every natural number is the size of a float. -/
theorem exists_units_eq {k : Nat} (h : k ≤ 2 ^ 53) :
    ∃ j, j ≤ infinityBits ∧ units j = k * unitsOfOne := by
  rcases Nat.eq_zero_or_pos k with rfl | hk
  · exact ⟨0, Nat.zero_le _, by rw [units_zero, Nat.zero_mul]⟩
  -- The number is doubled until it has 53 bits.
  obtain ⟨s, hs, hlow, hhigh⟩ : ∃ s, s ≤ 1074 ∧ 2 ^ 52 ≤ k * 2 ^ s ∧ k * 2 ^ s ≤ 2 ^ 53 := by
    have hself : 2 ^ k.log2 ≤ k := Nat.log2_self_le hk.ne'
    have hlt : k < 2 ^ (k.log2 + 1) := Nat.lt_log2_self
    rcases Nat.eq_or_lt_of_le h with rfl | h
    · exact ⟨0, by omega, by omega, by omega⟩
    have hlog : k.log2 < 53 := (Nat.pow_lt_pow_iff_right (by decide)).mp (hself.trans_lt h)
    refine ⟨52 - k.log2, by omega, ?_, ?_⟩
    · calc 2 ^ 52 = 2 ^ k.log2 * 2 ^ (52 - k.log2) := by rw [← pow_add]; congr 1; omega
        _ ≤ k * 2 ^ (52 - k.log2) := Nat.mul_le_mul_right _ hself
    · calc k * 2 ^ (52 - k.log2) ≤ 2 ^ (k.log2 + 1) * 2 ^ (52 - k.log2) :=
            Nat.mul_le_mul_right _ hlt.le
        _ = 2 ^ 53 := by rw [← pow_add]; congr 1; omega
  refine ⟨(1074 - s) * 2 ^ 52 + k * 2 ^ s, ?_, ?_⟩
  · rw [infinityBits_eq]
    omega
  · rw [units_mantissa hhigh (.inl hlow), mul_assoc, unitsOfOne_eq_mul (by omega)]

/-- **Up to 2⁵³ integers are floats.** -/
theorem signedUnits_floatOfInt {n : Int} (h : n.natAbs ≤ 2 ^ 53) :
    signedUnits (floatOfInt n) = n * unitsOfOne := by
  have hnat : ∀ k : Nat, k ≤ 2 ^ 53 → signedUnits (floatOfInt k) = k * unitsOfOne := by
    intro k hk
    obtain ⟨j, hj, hunits⟩ := exists_units_eq hk
    have hexact : exactUnits k 1 = units j := by rw [exactUnits_one, hunits]
    have hbits : nearestBits k 1 = j :=
      le_antisymm (nearestBits_le Nat.one_pos hexact.le)
        (le_nearestBits Nat.one_pos hj hexact.ge)
    rw [signedUnits, rank_floatOfInt_natCast, hbits, unitsOfRank_natCast, hunits]
    push_cast
    rfl
  obtain ⟨k, rfl | rfl⟩ := n.eq_nat_or_neg
  · exact hnat k (by omega)
  · have hneg := hnat k (by omega)
    rw [signedUnits] at hneg ⊢
    rw [rank_floatOfInt_neg, unitsOfRank_neg, hneg, Int.neg_mul]

theorem two_pow_mul_lt {a b c d : Nat} (h : a + b < c + d) : 2 ^ a * 2 ^ b < 2 ^ c * 2 ^ d := by
  rw [← pow_add, ← pow_add]
  exact Nat.pow_lt_pow_right (by decide) h

/-- The floats reach far beyond 2⁶³. -/
theorem unitsOfOne_lt_allUnits : 2 ^ 63 * unitsOfOne < allUnits := by
  have hbits : infinityBits = 2045 * 2 ^ 52 + 2 ^ 53 := rfl
  unfold allUnits unitsOfOne
  rw [hbits, units_mantissa (le_refl _) (.inl (by decide))]
  exact two_pow_mul_lt (by decide)

/-- No integer value is beyond the floats. -/
theorem mul_unitsOfOne_lt {n : Int} (hlow : minWord ≤ n) (hhigh : n ≤ maxWord) :
    -(allUnits : Int) < n * unitsOfOne ∧ n * unitsOfOne < allUnits := by
  have hlt := unitsOfOne_lt_allUnits
  have hsize : n.natAbs * unitsOfOne ≤ 2 ^ 63 * unitsOfOne := by
    unfold minWord maxWord at *
    exact Nat.mul_le_mul_right _ (by omega)
  have habs : (n * unitsOfOne).natAbs = n.natAbs * unitsOfOne := by
    rw [Int.natAbs_mul, Int.natAbs_natCast]
  omega

theorem ofUnits_mul_unitsOfOne {n : Int} (hlow : minWord ≤ n) (hhigh : n ≤ maxWord) :
    ofUnits (n * unitsOfOne) = finite n := by
  obtain ⟨hl, hh⟩ := mul_unitsOfOne_lt hlow hhigh
  have hone : (unitsOfOne : ℚ) ≠ 0 := by exact_mod_cast unitsOfOne_pos.ne'
  rw [ofUnits_of_lt hl hh, Int.cast_mul, Int.cast_natCast, mul_div_cancel_right₀ _ hone]

/-! ## §4. Integers and floats. -/

variable {w : Int64} {x : Float}

theorem mul_unitsOfOne_mem (w : Int64) :
    w.toInt * unitsOfOne ∈ Set.Icc (-(allUnits : Int)) allUnits := by
  obtain ⟨hlow, hhigh⟩ := mul_unitsOfOne_lt (minWord_le_toInt w) (toInt_le_maxWord w)
  exact ⟨hlow.le, hhigh.le⟩

/-- A float stands for an integer if it has as many units. -/
theorem amount?_eq_finite_iff (hx : isNaN x = false) :
    amount? x = some (finite w.toInt) ↔ signedUnits x = w.toInt * unitsOfOne := by
  rw [amount?_eq hx, ← ofUnits_mul_unitsOfOne (minWord_le_toInt w) (toInt_le_maxWord w),
    Option.some_inj, ofUnits_strictMonoOn.injOn.eq_iff (signedUnits_mem hx) (mul_unitsOfOne_mem w)]

theorem amount?_floatOfWord_eq_iff (hx : isNaN x = false) :
    amount? (floatOfWord w) = amount? x ↔ rank (floatOfWord w) = rank x :=
  amount?_eq_amount?_iff (isNaN_floatOfInt _) hx

/-- **The float nearest to an integer is ordered like the integer**, unless it takes another number
for the integer. -/
theorem compare_rank_floatOfWord (hx : isNaN x = false)
    (h : amount? (floatOfWord w) = amount? x → amount? x = some (finite w.toInt)) :
    compare (rank (floatOfWord w)) (rank x) = compare (w.toInt * unitsOfOne) (signedUnits x) := by
  rw [amount?_floatOfWord_eq_iff hx, amount?_eq_finite_iff hx] at h
  rcases lt_trichotomy (w.toInt * unitsOfOne) (signedUnits x) with hlt | heq | hgt
  · have hle : rank (floatOfWord w) ≤ rank x := rank_floatOfInt_le hx hlt.le
    have hne : rank (floatOfWord w) ≠ rank x := fun hrank => hlt.ne' (h hrank)
    rw [compare_lt_iff_lt.mpr hlt, compare_lt_iff_lt]
    exact lt_of_le_of_ne hle hne
  · have hle : rank (floatOfWord w) ≤ rank x := rank_floatOfInt_le hx heq.le
    have hge : rank x ≤ rank (floatOfWord w) := le_rank_floatOfInt hx heq.ge
    rw [compare_eq_iff_eq.mpr heq, compare_eq_iff_eq]
    exact le_antisymm hle hge
  · have hge : rank x ≤ rank (floatOfWord w) := le_rank_floatOfInt hx hgt.le
    have hne : rank (floatOfWord w) ≠ rank x := fun hrank => hgt.ne (h hrank)
    rw [compare_gt_iff_gt.mpr hgt, compare_gt_iff_gt]
    exact lt_of_le_of_ne hge hne.symm

end Fanout.Number
