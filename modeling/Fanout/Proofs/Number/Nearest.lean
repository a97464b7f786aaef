/-
  Fanout.Proofs.Number.Nearest
  ────────────────────────────
  **The float nearest to a quotient.**

  In units, a quotient lies between two neighbouring sizes of floats.  The
  nearest of them is taken, of two equally near ones the one with even bits.

    • `exponentFor_spec` — the mantissa has 53 bits, or the exponent is the
      least,
    • `nearestBits_spec` — which of the two neighbours is taken,
    • `nearestBits_le`, `le_nearestBits` — no float lies between a quotient
      and the float nearest to it,
    • `nearestBits_mono` — larger quotients, larger floats.
-/
import Mathlib.Algebra.Order.Floor.Semiring
import Mathlib.Data.Nat.Log
import Mathlib.Tactic.FieldSimp
import Mathlib.Tactic.Linarith
import Mathlib.Tactic.Ring
import Fanout.Proofs.Number.Amount

namespace Fanout.Number

/-! ## §1. The exponent. -/

/-- Scaling multiplies by a power of two. -/
theorem scaled_ratio (num den : Nat) (e : Int) :
    ((scaled num den e).1 : ℚ) / (scaled num den e).2 = num / den * 2 ^ (-e) := by
  obtain ⟨k, rfl | rfl⟩ := e.eq_nat_or_neg
  · have hneg : (-(k : Int)).toNat = 0 := by omega
    simp only [scaled, hneg, Int.toNat_natCast, zpow_neg, zpow_natCast]
    simp [twoTo]
    field_simp
  · have hneg : (-(k : Int)).toNat = 0 := by omega
    simp only [scaled, hneg, Int.neg_neg, Int.toNat_natCast, zpow_natCast]
    simp [twoTo]
    field_simp

theorem scaled_snd_pos {num den : Nat} (hden : 0 < den) (e : Int) : 0 < (scaled num den e).2 :=
  Nat.mul_pos hden (twoTo_pos _)

/-- With the first guess of the exponent the mantissa has 52 or 53 bits. -/
theorem guess_bounds {num den : Nat} (hnum : 0 < num) (hden : 0 < den) :
    (2 : ℚ) ^ 51 < num / den * 2 ^ (-((num.log2 : Int) - (den.log2 : Int) - 52)) ∧
      (num : ℚ) / den * 2 ^ (-((num.log2 : Int) - (den.log2 : Int) - 52)) < 2 ^ 53 := by
  have hn₁ : (2 : ℚ) ^ num.log2 ≤ num := by exact_mod_cast Nat.log2_self_le hnum.ne'
  have hn₂ : (num : ℚ) < 2 ^ (num.log2 + 1) := by exact_mod_cast Nat.lt_log2_self
  have hd₁ : (2 : ℚ) ^ den.log2 ≤ den := by exact_mod_cast Nat.log2_self_le hden.ne'
  have hd₂ : (den : ℚ) < 2 ^ (den.log2 + 1) := by exact_mod_cast Nat.lt_log2_self
  have hd : (0 : ℚ) < den := by exact_mod_cast hden
  generalize num.log2 = a at *
  generalize den.log2 = c at *
  have hpow : (2 : ℚ) ^ (-((a : Int) - (c : Int) - 52)) = 2 ^ c * 2 ^ 52 / 2 ^ a := by
    rw [show -((a : Int) - (c : Int) - 52) = (c : Int) + (52 : Nat) - (a : Int) by push_cast; ring,
      zpow_sub₀ two_ne_zero, zpow_add₀ two_ne_zero, zpow_natCast, zpow_natCast, zpow_natCast]
  rw [hpow, div_mul_div_comm]
  constructor
  · rw [lt_div_iff₀ (by positivity)]
    calc (2 : ℚ) ^ 51 * (den * 2 ^ a) < 2 ^ 51 * (2 ^ (c + 1) * 2 ^ a) := by gcongr
      _ = 2 ^ a * (2 ^ c * 2 ^ 52) := by ring
      _ ≤ num * (2 ^ c * 2 ^ 52) := by gcongr
  · rw [div_lt_iff₀ (by positivity)]
    calc (num : ℚ) * (2 ^ c * 2 ^ 52) < 2 ^ (a + 1) * (2 ^ c * 2 ^ 52) := by gcongr
      _ = 2 ^ 53 * (2 ^ c * 2 ^ a) := by ring
      _ ≤ 2 ^ 53 * (den * 2 ^ a) := by gcongr

/-- The first guess, or the exponent below it. -/
def properExponent (num den : Nat) : Int :=
  let guess : Int := (num.log2 : Int) - (den.log2 : Int) - 52
  if (scaled num den guess).1 / (scaled num den guess).2 < twoTo 52 then guess - 1 else guess

/-- With it the mantissa has 53 bits. -/
theorem properExponent_bounds {num den : Nat} (hnum : 0 < num) (hden : 0 < den) :
    (2 : ℚ) ^ 52 ≤ num / den * 2 ^ (-properExponent num den) ∧
      (num : ℚ) / den * 2 ^ (-properExponent num den) < 2 ^ 53 := by
  obtain ⟨hlow, hhigh⟩ := guess_bounds hnum hden
  unfold properExponent
  generalize hguess : (num.log2 : Int) - (den.log2 : Int) - 52 = guess at *
  have hratio := scaled_ratio num den guess
  have hsmall : (scaled num den guess).1 / (scaled num den guess).2 < twoTo 52 ↔
      (num : ℚ) / den * 2 ^ (-guess) < 2 ^ 52 := by
    rw [← hratio, ← Nat.floor_div_eq_div (K := ℚ), Nat.floor_lt (by positivity)]
    norm_cast
  dsimp only
  split
  · next h =>
    have hdouble : (2 : ℚ) ^ (-(guess - 1)) = 2 ^ (-guess) * 2 := by
      rw [neg_sub, sub_eq_add_neg, zpow_add₀ two_ne_zero, zpow_one, mul_comm]
    have hlt := hsmall.mp h
    rw [hdouble, ← mul_assoc]
    exact ⟨by linarith, by linarith⟩
  · next h => exact ⟨not_lt.mp fun hlt => h (hsmall.mpr hlt), hhigh⟩

/-- **The mantissa has 53 bits, or the exponent is the least**, and then the mantissa has no
more. -/
theorem exponentFor_spec {num den : Nat} (hnum : 0 < num) (hden : 0 < den) :
    -1074 ≤ exponentFor num den ∧
      (num : ℚ) / den * 2 ^ (-exponentFor num den) < 2 ^ 53 ∧
        ((2 : ℚ) ^ 52 ≤ num / den * 2 ^ (-exponentFor num den) ∨ exponentFor num den = -1074) := by
  obtain ⟨hlow, hhigh⟩ := properExponent_bounds hnum hden
  have hexponent : exponentFor num den = max (-1074) (properExponent num den) := rfl
  rw [hexponent]
  rcases le_total (-1074) (properExponent num den) with h | h
  · rw [max_eq_right h]
    exact ⟨h, hhigh, .inl hlow⟩
  · rw [max_eq_left h]
    refine ⟨le_refl _, lt_of_le_of_lt ?_ hhigh, .inr rfl⟩
    have hpow : (2 : ℚ) ^ (-(-1074) : Int) ≤ 2 ^ (-properExponent num den) :=
      zpow_le_zpow_right₀ one_le_two (by omega)
    gcongr

/-! ## §2. The two neighbours. -/

/-- A quotient in units. -/
def exactUnits (num den : Nat) : ℚ := num / den * unitsOfOne

/-- Does `v` go to the lower one of its neighbours?  It does if that one is nearer, or if it is as
near and its number is even. -/
def RoundsDown (v low high : ℚ) (number : Nat) : Prop :=
  2 * v < low + high ∨ (2 * v = low + high ∧ number % 2 = 0)

instance (v low high : ℚ) (number : Nat) : Decidable (RoundsDown v low high number) :=
  inferInstanceAs (Decidable (_ ∨ _))

/-- Of two numbers between the same neighbours the smaller one goes down if the larger one does. -/
theorem RoundsDown.mono {v w low high : ℚ} {number : Nat} (h : RoundsDown w low high number)
    (hvw : v ≤ w) : RoundsDown v low high number := by
  rcases h with hlt | ⟨heq, heven⟩
  · exact .inl (by linarith)
  · rcases eq_or_lt_of_le hvw with rfl | hvw
    · exact .inr ⟨heq, heven⟩
    · exact .inl (by linarith)

/-- The size of the units makes no difference. -/
theorem roundsDown_mul {v low high c : ℚ} {j k : Nat} (hc : 0 < c) (hjk : j % 2 = k % 2) :
    RoundsDown (v * c) (low * c) (high * c) j ↔ RoundsDown v low high k := by
  unfold RoundsDown
  rw [← mul_assoc, ← add_mul, mul_lt_mul_iff_left₀ hc, mul_left_inj' hc.ne', hjk]

/-- A quotient of natural numbers is rounded between two neighbouring natural numbers. -/
theorem roundQuotient_eq {n d : Nat} (hd : 0 < d) :
    roundQuotient n d =
      if RoundsDown ((n : ℚ) / d) (n / d : Nat) ((n / d : Nat) + 1) (n / d)
      then n / d else n / d + 1 := by
  have hd' : (0 : ℚ) < d := by exact_mod_cast hd
  have hsplit : (n : ℚ) = d * (n / d : Nat) + (n % d : Nat) := by
    exact_mod_cast (Nat.div_add_mod n d).symm
  have htwice : 2 * ((n : ℚ) / d) = (n / d : Nat) + (n / d : Nat) + (2 * (n % d) : Nat) / d := by
    rw [mul_div_assoc', div_eq_iff hd'.ne', add_mul, div_mul_cancel₀ _ hd'.ne']
    push_cast
    linarith
  have hlt : 2 * ((n : ℚ) / d) < (n / d : Nat) + ((n / d : Nat) + 1) ↔ 2 * (n % d) < d := by
    rw [htwice, ← add_assoc, add_lt_add_iff_left, div_lt_one hd']
    norm_cast
  have heq : 2 * ((n : ℚ) / d) = (n / d : Nat) + ((n / d : Nat) + 1) ↔ 2 * (n % d) = d := by
    rw [htwice, ← add_assoc, add_right_inj, div_eq_one_iff_eq hd'.ne']
    norm_cast
  exact if_congr (or_congr hlt (and_congr_left' heq)).symm rfl rfl

/-- Scaled for the exponent `e`, counted from the least one, a quotient has that many units for each
of its own. -/
theorem exactUnits_eq_scaled (num den e : Nat) :
    exactUnits num den = ((scaled num den ((e : Int) - 1074)).1 : ℚ) /
      (scaled num den ((e : Int) - 1074)).2 * 2 ^ e := by
  have hpow : (2 : ℚ) ^ (-((e : Int) - 1074)) * 2 ^ e = unitsOfOne := by
    rw [unitsOfOne_eq, neg_sub, zpow_sub₀ two_ne_zero, zpow_natCast]
    exact div_mul_cancel₀ _ (pow_ne_zero e two_ne_zero)
  rw [scaled_ratio, mul_assoc, hpow]
  rfl

/-- The mantissa lies below the quotient, and the next one above it. -/
theorem quotient_bounds (n d : Nat) :
    ((n / d : Nat) : ℚ) ≤ n / d ∧ (n : ℚ) / d < (n / d : Nat) + 1 := by
  refine ⟨Nat.cast_div_le, ?_⟩
  rw [← Nat.floor_div_eq_div (K := ℚ)]
  exact Nat.lt_floor_add_one _

/-- The sizes of the mantissa and of the one after it, in units. -/
theorem units_neighbours {e m : Nat} (hm : m < 2 ^ 53) (hnormal : 2 ^ 52 ≤ m ∨ e = 0) :
    units (e * 2 ^ 52 + m) = m * 2 ^ e ∧ units (e * 2 ^ 52 + m + 1) = (m + 1) * 2 ^ e := by
  refine ⟨units_mantissa hm.le hnormal, ?_⟩
  rw [Nat.add_assoc, units_mantissa (by omega) (by omega)]

/-- **The nearest of the two neighbours is taken**, of two equally near ones the one with even
bits; beyond the largest float it is infinity. -/
theorem nearestBits_spec (num : Nat) {den : Nat} (hden : 0 < den) :
    ∃ k : Nat, (units k : ℚ) ≤ exactUnits num den ∧ exactUnits num den < units (k + 1) ∧
      nearestBits num den = min
        (if RoundsDown (exactUnits num den) (units k) (units (k + 1)) k then k else k + 1)
        infinityBits := by
  rcases Nat.eq_zero_or_pos num with rfl | hnum
  · have hzero : exactUnits 0 den = 0 := by simp [exactUnits]
    refine ⟨0, ?_, ?_, ?_⟩
    · rw [hzero, units_zero, Nat.cast_zero]
    · rw [hzero]
      exact_mod_cast units_strictMono (Nat.lt_succ_self 0)
    · have hone : units (0 + 1) = 1 := rfl
      rw [hzero, units_zero, hone, if_pos (.inl (by norm_num)), Nat.zero_min]
      exact if_pos rfl
  -- The mantissa is the quotient of two numbers, in the size that the exponent gives.
  obtain ⟨hleast, hhigh, hnormal⟩ := exponentFor_spec hnum hden
  have hbits : nearestBits num den = min ((exponentFor num den + 1074).toNat * twoTo 52 +
      roundQuotient (scaled num den (exponentFor num den)).1
        (scaled num den (exponentFor num den)).2) infinityBits := if_neg hnum.ne'
  generalize exponentFor num den = exponent at *
  obtain ⟨e, rfl⟩ : ∃ e : Nat, exponent = (e : Int) - 1074 :=
    ⟨(exponent + 1074).toNat, by omega⟩
  have hd : 0 < (scaled num den ((e : Int) - 1074)).2 := scaled_snd_pos hden _
  have he : ((e : Int) - 1074 + 1074).toNat = e := by omega
  rw [he] at hbits
  rw [← scaled_ratio] at hhigh hnormal
  rw [exactUnits_eq_scaled num den e]
  generalize (scaled num den ((e : Int) - 1074)).1 = n at *
  generalize (scaled num den ((e : Int) - 1074)).2 = d at *
  obtain ⟨hfloor, hceil⟩ := quotient_bounds n d
  have hq : n / d < 2 ^ 53 := by exact_mod_cast hfloor.trans_lt hhigh
  have hqnormal : 2 ^ 52 ≤ n / d ∨ e = 0 := by
    refine hnormal.imp (fun h => Nat.lt_succ_iff.mp ?_) fun h => by omega
    exact_mod_cast h.trans_lt hceil
  obtain ⟨hlow, hup⟩ := units_neighbours hq hqnormal
  refine ⟨e * 2 ^ 52 + n / d, ?_, ?_, ?_⟩
  · rw [hlow]
    push_cast
    gcongr
  · rw [hup]
    push_cast
    gcongr
  · have heven : (e * 2 ^ 52 + n / d) % 2 = n / d % 2 := by omega
    have hround : RoundsDown ((n : ℚ) / d * 2 ^ e) (units (e * 2 ^ 52 + n / d))
          (units (e * 2 ^ 52 + n / d + 1)) (e * 2 ^ 52 + n / d) ↔
        RoundsDown ((n : ℚ) / d) (n / d : Nat) ((n / d : Nat) + 1) (n / d) := by
      rw [hlow, hup, ← roundsDown_mul (pow_pos two_pos e) heven]
      push_cast
      rfl
    rw [hbits, roundQuotient_eq hd, if_congr hround rfl rfl, twoTo_52]
    congr 1
    split <;> omega

/-! ## §3. No float in between. -/

/-- **A float that is not below the quotient is not below the float nearest to it.** -/
theorem nearestBits_le {num den k : Nat} (hden : 0 < den)
    (h : exactUnits num den ≤ units k) : nearestBits num den ≤ k := by
  obtain ⟨j, hlow, hhigh, hbits⟩ := nearestBits_spec num hden
  rw [hbits]
  refine (min_le_left _ _).trans ?_
  have hjk : j ≤ k := units_strictMono.le_iff_le.mp (by exact_mod_cast hlow.trans h)
  rcases Nat.eq_or_lt_of_le hjk with rfl | hjk
  · -- The quotient is the size of a float, and the next one is further away.
    rw [if_pos (.inl (by linarith))]
  · split <;> omega

/-- **A float that is not above the quotient is not above the float nearest to it.** -/
theorem le_nearestBits {num den k : Nat} (hden : 0 < den) (hk : k ≤ infinityBits)
    (h : (units k : ℚ) ≤ exactUnits num den) : k ≤ nearestBits num den := by
  obtain ⟨j, hlow, hhigh, hbits⟩ := nearestBits_spec num hden
  have hkj : k < j + 1 := units_strictMono.lt_iff_lt.mp (by exact_mod_cast h.trans_lt hhigh)
  rw [hbits]
  refine le_min ?_ hk
  split <;> omega

theorem nearestBits_le_infinityBits (num : Nat) {den : Nat} (hden : 0 < den) :
    nearestBits num den ≤ infinityBits := by
  obtain ⟨j, -, -, hbits⟩ := nearestBits_spec num hden
  rw [hbits]
  exact min_le_right _ _

/-- **Larger quotients have larger floats.** -/
theorem nearestBits_mono {num₁ den₁ num₂ den₂ : Nat} (hden₁ : 0 < den₁) (hden₂ : 0 < den₂)
    (h : exactUnits num₁ den₁ ≤ exactUnits num₂ den₂) :
    nearestBits num₁ den₁ ≤ nearestBits num₂ den₂ := by
  obtain ⟨j, hlow₁, hhigh₁, hbits₁⟩ := nearestBits_spec num₁ hden₁
  obtain ⟨k, hlow₂, hhigh₂, hbits₂⟩ := nearestBits_spec num₂ hden₂
  have hjk : j < k + 1 :=
    units_strictMono.lt_iff_lt.mp (by exact_mod_cast (hlow₁.trans h).trans_lt hhigh₂)
  rw [hbits₁, hbits₂]
  refine min_le_min_right _ ?_
  rcases Nat.eq_or_lt_of_le (Nat.lt_succ_iff.mp hjk) with rfl | hjk
  · -- Between the same neighbours, what is rounded down lies below what is rounded up.
    split
    · split <;> omega
    · next h₁ => rw [if_neg fun h₂ => h₁ (h₂.mono h)]
  · split <;> split <;> omega

end Fanout.Number
