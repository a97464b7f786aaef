/-
  Fanout.Proofs.Number.Word
  ─────────────────────────
  **What fits into 64 bits.**

  The machine divides towards zero and leaves a remainder with the sign of
  the dividend.  Rounding down takes one from the quotient and adds the
  divisor to the remainder, exactly where the remainder is not 0 and dividend
  and divisor have different signs.  Neither step leaves the range.

    • `quotient?_eq_none_iff` — one quotient does not fit, −2⁶³ by −1,
    • `IsFloorDivision` — the law of division rounded down, which determines
      quotient and remainder (`floor_eq`, `remainder_eq`),
    • `isFloorDivision_tdiv`, `isFloorDivision_tdiv_sub_one` — what the
      machine computes obeys it, without and with the two corrections,
    • `isRemainder_iff` — one remainder has the sign of the divisor,
    • `powerFrom?_eq` — repeated squaring refuses a power exactly if the
      power itself does not fit.
-/
import Fanout.Number.Word
import Mathlib.Algebra.Order.Ring.Int
import Mathlib.Algebra.Order.Floor.Ring
import Mathlib.Data.Rat.Floor
import Mathlib.Tactic.Linarith
import Mathlib.Tactic.Ring

namespace Fanout.Number

/-! ## §1. The range. -/

theorem minWord_le_toInt (w : Int64) : minWord ≤ w.toInt := Int64.le_toInt w

theorem toInt_le_maxWord (w : Int64) : w.toInt ≤ maxWord := by
  have h := Int64.toInt_lt w
  unfold maxWord
  omega

theorem narrow?_eq_none_iff {n : Int} : narrow? n = none ↔ n < minWord ∨ maxWord < n := by
  unfold narrow?
  split <;> simp <;> omega

theorem toInt_ne_zero {w : Int64} (h : w ≠ 0) : w.toInt ≠ 0 :=
  fun h0 => h (Int64.toInt_inj.mp h0)

theorem toInt_add_of_fits {x y : Int64} (hlow : minWord ≤ x.toInt + y.toInt)
    (hhigh : x.toInt + y.toInt ≤ maxWord) : (x + y).toInt = x.toInt + y.toInt := by
  unfold minWord at hlow
  unfold maxWord at hhigh
  rw [Int64.toInt_add]
  exact Int.bmod_eq_of_le (by omega) (by omega)

theorem toInt_sub_of_fits {x y : Int64} (hlow : minWord ≤ x.toInt - y.toInt)
    (hhigh : x.toInt - y.toInt ≤ maxWord) : (x - y).toInt = x.toInt - y.toInt := by
  unfold minWord at hlow
  unfold maxWord at hhigh
  rw [Int64.toInt_sub]
  exact Int.bmod_eq_of_le (by omega) (by omega)

/-! ## §2. Quotients towards zero. -/

/-- A divisor other than 1 and −1 at least halves the dividend. -/
theorem natAbs_tdiv_le (m : Int) {n : Int} (hn : 2 ≤ n.natAbs) :
    (m.tdiv n).natAbs ≤ m.natAbs / 2 := by
  rw [Int.natAbs_tdiv]
  exact Nat.div_le_div_left hn (by decide)

/-- **One quotient does not fit**: that of the smallest integer by −1. -/
theorem quotient?_eq_none_iff {x y : Int64} (hy : y ≠ 0) :
    quotient? x y = none ↔ x.toInt = minWord ∧ y.toInt = -1 := by
  have hlow := minWord_le_toInt x
  have hhigh := toInt_le_maxWord x
  have hy0 := toInt_ne_zero hy
  unfold quotient?
  rw [narrow?_eq_none_iff]
  generalize x.toInt = m at *
  generalize y.toInt = n at *
  unfold minWord maxWord at *
  by_cases hone : n = 1
  · rw [hone, Int.tdiv_one]
    omega
  by_cases hminus : n = -1
  · rw [hminus, Int.tdiv_neg, Int.tdiv_one]
    omega
  · have hsize := natAbs_tdiv_le m (show 2 ≤ n.natAbs by omega)
    omega

theorem quotient?_eq_some {x y q : Int64} (h : quotient? x y = some q) :
    q.toInt = x.toInt.tdiv y.toInt := toInt_of_narrow? h

/-! ## §3. Rounding down. -/

/-- The law of division rounded down: the remainder lies between 0 and the divisor, on the side of
the divisor. -/
structure IsFloorDivision (m n q r : Int) : Prop where
  /-- Quotient and remainder make up the dividend. -/
  split : m = q * n + r
  /-- By a positive divisor the remainder is not negative. -/
  of_pos : 0 < n → 0 ≤ r ∧ r < n
  /-- By a negative divisor it is not positive. -/
  of_neg : n < 0 → n < r ∧ r ≤ 0

namespace IsFloorDivision

variable {m n q r : Int}

/-- **The quotient is the exact one, rounded down.** -/
theorem floor_eq (h : IsFloorDivision m n q r) (hn : n ≠ 0) : ⌊(m : ℚ) / n⌋ = q := by
  have hsplit := h.split
  rw [Int.floor_eq_iff]
  rcases lt_or_gt_of_ne hn with hneg | hpos
  · obtain ⟨hlow, hhigh⟩ := h.of_neg hneg
    have hq : (n : ℚ) < 0 := by exact_mod_cast hneg
    rw [le_div_iff_of_neg hq, div_lt_iff_of_neg hq]
    constructor
    · exact_mod_cast (by linarith : m ≤ q * n)
    · exact_mod_cast (by linarith : (q + 1) * n < m)
  · obtain ⟨hlow, hhigh⟩ := h.of_pos hpos
    have hq : (0 : ℚ) < n := by exact_mod_cast hpos
    rw [le_div_iff₀ hq, div_lt_iff₀ hq]
    constructor
    · exact_mod_cast (by linarith : q * n ≤ m)
    · exact_mod_cast (by linarith : m < (q + 1) * n)

/-- **The remainder is what the exact quotient, rounded down, leaves.** -/
theorem remainder_eq (h : IsFloorDivision m n q r) (hn : n ≠ 0) :
    r = m - n * ⌊(m : ℚ) / n⌋ := by
  rw [h.floor_eq hn]
  linarith [h.split, mul_comm q n]

end IsFloorDivision

/-- What the quotient towards zero leaves is smaller than the divisor and has the sign of the
dividend. -/
theorem tmod_bounds (m : Int) {n : Int} (hn : n ≠ 0) :
    (m.tmod n).natAbs < n.natAbs ∧ (0 ≤ m → 0 ≤ m.tmod n) ∧ (m ≤ 0 → m.tmod n ≤ 0) := by
  refine ⟨?_, Int.tmod_nonneg n, fun hm => ?_⟩
  · rw [Int.natAbs_tmod]
    exact Nat.mod_lt _ (by omega)
  · have h := Int.tmod_nonneg n (Int.neg_nonneg_of_nonpos hm)
    rw [Int.neg_tmod] at h
    omega

/-- Without a remainder, or between integers of one sign, the quotient towards zero is the one
rounded down. -/
theorem isFloorDivision_tdiv {m n : Int} (hn : n ≠ 0)
    (h : m.tmod n = 0 ∨ (m < 0 ↔ n < 0)) : IsFloorDivision m n (m.tdiv n) (m.tmod n) := by
  obtain ⟨hsize, hpos, hneg⟩ := tmod_bounds m hn
  refine ⟨?_, fun _ => by omega, fun _ => by omega⟩
  rw [mul_comm]
  exact (Int.mul_tdiv_add_tmod m n).symm

/-- Otherwise the quotient towards zero is one too large. -/
theorem isFloorDivision_tdiv_sub_one {m n : Int} (hn : n ≠ 0) (hrem : m.tmod n ≠ 0)
    (h : ¬ (m < 0 ↔ n < 0)) : IsFloorDivision m n (m.tdiv n - 1) (m.tmod n + n) := by
  obtain ⟨hsize, hpos, hneg⟩ := tmod_bounds m hn
  refine ⟨?_, fun _ => by omega, fun _ => by omega⟩
  have hsplit := Int.mul_tdiv_add_tmod m n
  linarith [mul_comm n (m.tdiv n)]

/-- A division by any number but 0 can be rounded down. -/
theorem exists_isFloorDivision (m : Int) {n : Int} (hn : n ≠ 0) :
    ∃ q r, IsFloorDivision m n q r := by
  by_cases hrem : m.tmod n = 0
  · exact ⟨_, _, isFloorDivision_tdiv hn (.inl hrem)⟩
  by_cases hsign : m < 0 ↔ n < 0
  · exact ⟨_, _, isFloorDivision_tdiv hn (.inr hsign)⟩
  · exact ⟨_, _, isFloorDivision_tdiv_sub_one hn hrem hsign⟩

/-- A remainder of `m` by `n` with the sign of `n`. -/
structure IsRemainder (m n r : Int) : Prop where
  /-- What is taken off is a multiple of the divisor. -/
  dvd_sub : n ∣ m - r
  /-- It is smaller than the divisor. -/
  natAbs_lt : r.natAbs < n.natAbs
  /-- It has the sign of the divisor, unless it is 0. -/
  sign : r = 0 ∨ (r < 0 ↔ n < 0)

theorem IsFloorDivision.isRemainder {m n q r : Int} (h : IsFloorDivision m n q r) (hn : n ≠ 0) :
    IsRemainder m n r := by
  have hpos := h.of_pos
  have hneg := h.of_neg
  refine ⟨⟨q, ?_⟩, by omega, by omega⟩
  linarith [h.split, mul_comm q n]

theorem IsRemainder.exists_isFloorDivision {m n r : Int} (h : IsRemainder m n r) :
    ∃ q, IsFloorDivision m n q r := by
  obtain ⟨q, hq⟩ := h.dvd_sub
  have hsize := h.natAbs_lt
  have hsign := h.sign
  refine ⟨q, ?_, fun _ => by omega, fun _ => by omega⟩
  linarith [mul_comm q n]

/-- **There is one remainder with the sign of the divisor.** -/
theorem isRemainder_iff {m n r : Int} (hn : n ≠ 0) :
    IsRemainder m n r ↔ r = m - n * ⌊(m : ℚ) / n⌋ := by
  constructor
  · intro h
    obtain ⟨q, hdiv⟩ := h.exists_isFloorDivision
    exact hdiv.remainder_eq hn
  · rintro rfl
    obtain ⟨q, r, hdiv⟩ := exists_isFloorDivision m hn
    rw [← hdiv.remainder_eq hn]
    exact hdiv.isRemainder hn

/-! ## §4. Powers. -/

/-- A number out of the range is not brought back by a positive factor. -/
theorem narrow?_mul_of_pos {m k : Int} (hm : narrow? m = none) (hk : 0 < k) :
    narrow? (m * k) = none := by
  rw [narrow?_eq_none_iff] at hm ⊢
  unfold minWord maxWord at *
  rcases hm with hm | hm
  · exact .inl (by nlinarith)
  · exact .inr (by nlinarith)

/-- 2⁶³ is no square. -/
theorem mul_self_ne (b : Int) : b * b ≠ 9223372036854775808 := by
  intro h
  have hsize : b.natAbs * b.natAbs = 9223372036854775808 := by
    have := congrArg Int.natAbs h
    rwa [Int.natAbs_mul] at this
  rcases Nat.lt_or_ge b.natAbs 3037000500 with hlt | hge
  · have := Nat.mul_self_le_mul_self (Nat.le_of_lt_succ hlt)
    omega
  · have := Nat.mul_self_le_mul_self hge
    omega

/-- **A square that does not fit is part of no power that fits**, whatever the sign of the other
factors: 2⁶³ alone would fit with a minus sign, and it is no square. -/
theorem narrow?_mul_of_square {b c : Int} (hb : narrow? (b * b) = none) (hc : c ≠ 0) :
    narrow? (c * (b * b)) = none := by
  have hne := mul_self_ne b
  have hnonneg := mul_self_nonneg b
  rw [narrow?_eq_none_iff] at hb ⊢
  unfold minWord maxWord at *
  generalize b * b = s at *
  have hs : 9223372036854775808 < s := by omega
  rcases lt_or_gt_of_ne hc with hneg | hpos
  · exact .inl (by nlinarith)
  · exact .inr (by nlinarith)

/-- From the second on, no power of a number fits whose square does not. -/
theorem narrow?_mul_pow_of_square {b c : Int} (hb : narrow? (b * b) = none) (hb0 : b ≠ 0)
    (hc : c ≠ 0) {n : Nat} (hn : 2 ≤ n) : narrow? (c * b ^ n) = none := by
  obtain ⟨k, rfl⟩ : ∃ k, n = k + 2 := ⟨n - 2, by omega⟩
  rw [pow_add, pow_two, ← mul_assoc]
  exact narrow?_mul_of_square hb (mul_ne_zero hc (pow_ne_zero k hb0))

/-- A product by 0 is not refused. -/
theorem toInt_ne_zero_of_product? {x y : Int64} (h : product? x y = none) : y.toInt ≠ 0 := by
  intro h0
  rw [product?, h0, mul_zero] at h
  cases h

/-- From two factors on, the lowest bit decides on the product so far, and the base is squared. -/
theorem powerFrom?_of_two_le (factor base : Int64) {n : Nat} (hn : 2 ≤ n) :
    powerFrom? factor base n =
      (if n % 2 = 1 then product? factor base else some factor).bind fun next =>
        (product? base base).bind fun square => powerFrom? next square (n / 2) := by
  rw [powerFrom?, dif_neg (by omega)]
  split <;> rfl

/-- **Repeated squaring gives the power, or refuses it because the power itself does not fit.**
The invariant is that the product so far is not 0, unless the base is 0. -/
theorem powerFrom?_eq {factor base : Int64} (h : factor.toInt ≠ 0 ∨ base.toInt = 0) (n : Nat) :
    powerFrom? factor base n = narrow? (factor.toInt * base.toInt ^ n) := by
  induction n using Nat.strong_induction_on generalizing factor base with
  | _ n ih =>
      obtain hn | hn | hn : n = 0 ∨ n = 1 ∨ 2 ≤ n := by omega
      · rw [hn, powerFrom?, dif_pos (by decide), if_pos rfl, pow_zero, mul_one, narrow?_toInt]
      · rw [hn, powerFrom?, dif_pos (by decide), if_neg (by decide), pow_one]
        rfl
      rw [powerFrom?_of_two_le factor base hn]
      cases hsquare : product? base base with
      | none =>
          have hbase := toInt_ne_zero_of_product? hsquare
          rw [narrow?_mul_pow_of_square hsquare hbase (h.resolve_right hbase) hn]
          exact Option.bind_fun_none _
      | some square =>
          have hsq : square.toInt = base.toInt * base.toInt := toInt_of_narrow? hsquare
          have hstep : ∀ next : Int64, next.toInt ≠ 0 ∨ base.toInt = 0 →
              powerFrom? next square (n / 2) =
                narrow? (next.toInt * (base.toInt * base.toInt) ^ (n / 2)) := by
            intro next hnext
            rw [ih (n / 2) (by omega) (by rw [hsq, mul_self_eq_zero]; exact hnext), hsq]
          obtain ⟨k, rfl | rfl⟩ := Nat.even_or_odd' n
          · rw [if_neg (by omega)]
            show powerFrom? factor square _ = _
            rw [hstep factor h, Nat.mul_div_cancel_left k (by decide), ← pow_two, ← pow_mul]
          · have hhalf : (2 * k + 1) / 2 = k := by omega
            have hpower : factor.toInt * base.toInt ^ (2 * k + 1) =
                factor.toInt * base.toInt * (base.toInt * base.toInt) ^ k := by ring
            rw [if_pos (by omega), hpower]
            cases hnext : product? factor base with
            | none =>
                -- What is left of the power is a square, hence positive.
                have hbase := toInt_ne_zero_of_product? hnext
                exact (narrow?_mul_of_pos hnext (pow_pos (mul_self_pos.mpr hbase) k)).symm
            | some next =>
                have hmul : next.toInt = factor.toInt * base.toInt := toInt_of_narrow? hnext
                have hinv : next.toInt ≠ 0 ∨ base.toInt = 0 := by
                  rw [hmul]
                  by_cases hbase : base.toInt = 0
                  · exact .inr hbase
                  · exact .inl (mul_ne_zero (h.resolve_right hbase) hbase)
                show powerFrom? next square _ = _
                rw [hstep next hinv, hhalf, hmul]

end Fanout.Number
