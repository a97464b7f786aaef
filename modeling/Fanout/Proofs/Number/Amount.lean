/-
  Fanout.Proofs.Number.Amount
  ───────────────────────────
  **What floats stand for, and their order.**

  Every finite float is a whole number of *units*, of which the least
  positive float is one.  The units grow with the bits below the sign, so
  that the order of the floats, which compares bits, is the order of what
  they stand for.

    • `units`, `units_strictMono` — the size of a float in units,
    • `ofUnits`, `ofUnits_strictMonoOn` — the number of so many units,
    • `amount?`, `amount?_eq` — what a float stands for,
    • `order_eq` — floats are ordered by that.
-/
import Mathlib.Algebra.Order.Archimedean.Basic
import Mathlib.Data.Rat.Floor
import Mathlib.Order.WithBot
import Mathlib.Tactic.NormNum
import Fanout.Proofs.Number.Bits

namespace Fanout.Number

/-! ## §1. Comparison through an embedding. -/

section Embedding

variable {α β : Type} [LinearOrder α] [LinearOrder β] {f : α → β}

theorem compare_of_strictMonoOn {s : Set α} {a b : α} (hf : StrictMonoOn f s) (ha : a ∈ s)
    (hb : b ∈ s) : compare (f a) (f b) = compare a b := by
  rw [← cmp_eq_compare, ← cmp_eq_compare, hf.cmp_map_eq ha hb]

theorem compare_of_strictMono (hf : StrictMono f) (a b : α) :
    compare (f a) (f b) = compare a b :=
  compare_of_strictMonoOn (hf.strictMonoOn Set.univ) trivial trivial

end Embedding

/-! ## §2. Units. -/

/-- The size of the float with the bits `k` below its sign, in units: the size of the mantissa,
doubled with every exponent after the first two, which share theirs. -/
def units (k : Nat) : Nat :=
  if k / 2 ^ 52 = 0 then k else (2 ^ 52 + k % 2 ^ 52) * 2 ^ (k / 2 ^ 52 - 1)

/-- **A mantissa of 53 bits with the exponent `e`**, and the mantissa after the last of them.  For
the least exponent the mantissa may have fewer bits. -/
theorem units_mantissa {e m : Nat} (hm : m ≤ 2 ^ 53) (hnormal : 2 ^ 52 ≤ m ∨ e = 0) :
    units (e * 2 ^ 52 + m) = m * 2 ^ e := by
  obtain hlow | hmid | hhigh : m < 2 ^ 52 ∨ (2 ^ 52 ≤ m ∧ m < 2 ^ 53) ∨ m = 2 ^ 53 := by omega
  · have he : e = 0 := by omega
    rw [he, Nat.zero_mul, Nat.zero_add, units, if_pos (Nat.div_eq_of_lt hlow), pow_zero, mul_one]
  · have hdiv : (e * 2 ^ 52 + m) / 2 ^ 52 = e + 1 := by omega
    have hmod : (e * 2 ^ 52 + m) % 2 ^ 52 = m - 2 ^ 52 := by omega
    rw [units, hdiv, hmod, if_neg (by omega), Nat.add_sub_cancel, Nat.add_sub_cancel' hmid.1]
  · have hdiv : (e * 2 ^ 52 + m) / 2 ^ 52 = e + 2 := by omega
    have hmod : (e * 2 ^ 52 + m) % 2 ^ 52 = 0 := by omega
    rw [units, hdiv, hmod, if_neg (by omega), hhigh, Nat.add_zero]
    show 2 ^ 52 * 2 ^ (e + 1) = _
    rw [← pow_add, ← pow_add]
    congr 1
    omega

theorem units_zero : units 0 = 0 := rfl

/-- Every number of bits is an exponent and a mantissa. -/
theorem exists_mantissa (k : Nat) :
    ∃ e m, k = e * 2 ^ 52 + m ∧ m < 2 ^ 53 ∧ (2 ^ 52 ≤ m ∨ e = 0) := by
  by_cases h : k < 2 ^ 52
  · exact ⟨0, k, by omega, by omega, .inr rfl⟩
  · exact ⟨k / 2 ^ 52 - 1, 2 ^ 52 + k % 2 ^ 52, by omega, by omega, .inl (by omega)⟩

/-- **More bits, more units.** -/
theorem units_strictMono : StrictMono units := by
  refine strictMono_nat_of_lt_succ fun k => ?_
  obtain ⟨e, m, rfl, hm, hnormal⟩ := exists_mantissa k
  rw [Nat.add_assoc, units_mantissa hm.le hnormal, units_mantissa (by omega) (by omega)]
  exact Nat.mul_lt_mul_of_pos_right (by omega) (by positivity)

/-- The units of a float, with the sign that its place in the order has. -/
def unitsOfRank (r : Int) : Int := r.sign * units r.natAbs

theorem unitsOfRank_natCast (k : Nat) : unitsOfRank k = units k := by
  unfold unitsOfRank
  rcases Nat.eq_zero_or_pos k with rfl | hk
  · rfl
  · rw [Int.sign_natCast_of_ne_zero hk.ne', one_mul, Int.natAbs_natCast]

theorem unitsOfRank_neg (r : Int) : unitsOfRank (-r) = -unitsOfRank r := by
  unfold unitsOfRank
  rw [Int.sign_neg, Int.natAbs_neg, Int.neg_mul]

/-- **The order of the places is the order of the units.** -/
theorem unitsOfRank_strictMono : StrictMono unitsOfRank := by
  intro r s h
  have hnat : ∀ {j k : Nat}, j < k → (units j : Int) < units k :=
    fun hjk => by exact_mod_cast units_strictMono hjk
  have hpos : ∀ k : Nat, 0 < k → (0 : Int) < units k := fun k hk => hnat hk
  obtain ⟨j, rfl | rfl⟩ := r.eq_nat_or_neg <;> obtain ⟨k, rfl | rfl⟩ := s.eq_nat_or_neg <;>
    simp only [unitsOfRank_neg, unitsOfRank_natCast]
  · exact hnat (by omega)
  · omega
  · -- One of the two is not 0.
    obtain hj | hk : 0 < j ∨ 0 < k := by omega
    · have := hpos j hj
      omega
    · have := hpos k hk
      omega
  · exact neg_lt_neg (hnat (by omega))

/-! ## §3. Amounts. -/

/-- What numbers stand for: the rational numbers and both infinities. -/
abbrev Amount := WithBot (WithTop ℚ)

/-- A rational number as an amount. -/
def finite (q : ℚ) : Amount := ((q : WithTop ℚ) : WithBot (WithTop ℚ))

theorem finite_injective : Function.Injective finite :=
  WithBot.coe_injective.comp WithTop.coe_injective

/-- What a float stands for, unless it is no number. -/
def amount? (x : Float) : Option Amount :=
  match read x with
  | .nan => none
  | .infinite negative => some (if negative then ⊥ else ⊤)
  | .finite negative mantissa exponent =>
    some (finite ((if negative then -1 else 1) * mantissa * 2 ^ exponent))

/-- The units of infinity. -/
@[irreducible] def allUnits : Nat := units infinityBits

/-- The units of the number 1. -/
@[irreducible] def unitsOfOne : Nat := 2 ^ 1074

theorem unitsOfOne_eq_mul {s t : Nat} (h : s + t = 1074) : 2 ^ s * 2 ^ t = unitsOfOne := by
  unfold unitsOfOne
  rw [← h, pow_add]

theorem unitsOfOne_eq : (unitsOfOne : ℚ) = 2 ^ 1074 := by
  unfold unitsOfOne
  rw [Nat.cast_pow, Nat.cast_two]

theorem unitsOfOne_pos : 0 < unitsOfOne := by
  have h : (0 : ℚ) < unitsOfOne := unitsOfOne_eq ▸ pow_pos two_pos _
  exact_mod_cast h

/-- The amount of so many units. -/
def ofUnits (u : Int) : Amount :=
  if u = allUnits then ⊤ else if u = -allUnits then ⊥ else finite (u / unitsOfOne)

theorem allUnits_pos : (0 : Int) < allUnits := by
  have h : units 0 < allUnits := by
    unfold allUnits
    exact units_strictMono (by decide)
  exact_mod_cast h

theorem ofUnits_of_lt {u : Int} (hlow : -allUnits < u) (hhigh : u < allUnits) :
    ofUnits u = finite (u / unitsOfOne) := by
  rw [ofUnits, if_neg hhigh.ne, if_neg hlow.ne']

theorem ofUnits_allUnits : ofUnits allUnits = ⊤ := if_pos rfl

theorem ofUnits_neg_allUnits : ofUnits (-allUnits) = ⊥ := by
  have h := allUnits_pos
  rw [ofUnits, if_neg (by omega), if_pos rfl]

/-- **More units, larger amounts.** -/
theorem ofUnits_strictMonoOn :
    StrictMonoOn ofUnits (Set.Icc (-(allUnits : Int)) allUnits) := by
  intro u hu v hv h
  have hlow : -(allUnits : Int) < v := lt_of_le_of_lt hu.1 h
  have hhigh : u < allUnits := lt_of_lt_of_le h hv.2
  rcases eq_or_lt_of_le hu.1 with rfl | hu
  · rw [ofUnits_neg_allUnits]
    rcases eq_or_lt_of_le hv.2 with rfl | hv
    · rw [ofUnits_allUnits]
      exact bot_lt_top
    · rw [ofUnits_of_lt hlow hv]
      exact WithBot.bot_lt_coe _
  · rw [ofUnits_of_lt hu hhigh]
    rcases eq_or_lt_of_le hv.2 with rfl | hv
    · rw [ofUnits_allUnits]
      exact WithBot.coe_lt_coe.mpr (WithTop.coe_lt_top _)
    · rw [ofUnits_of_lt hlow hv]
      refine WithBot.coe_lt_coe.mpr (WithTop.coe_lt_coe.mpr ?_)
      have hcast : (u : ℚ) < v := by exact_mod_cast h
      have hone : (0 : ℚ) < unitsOfOne := by exact_mod_cast unitsOfOne_pos
      gcongr

/-! ## §4. Floats. -/

/-- The units of a float, with its sign. -/
def signedUnits (x : Float) : Int := unitsOfRank (rank x)

theorem signedUnits_eq (x : Float) :
    signedUnits x = (if isNegative x then -1 else 1) * (units (magnitudeBits x) : Int) := by
  unfold signedUnits rank
  split
  · rw [unitsOfRank_neg, unitsOfRank_natCast]
    simp
  · rw [unitsOfRank_natCast]
    simp

theorem signedUnits_mem {x : Float} (h : isNaN x = false) :
    signedUnits x ∈ Set.Icc (-(allUnits : Int)) allUnits := by
  have hle : (units (magnitudeBits x) : Int) ≤ allUnits := by
    unfold allUnits
    exact_mod_cast units_strictMono.monotone (magnitudeBits_le h)
  rw [signedUnits_eq, Set.mem_Icc]
  split <;> constructor <;> omega

/-- A mantissa with its exponent is a number of units. -/
theorem mantissa_eq_units (m e : Nat) :
    (m : ℚ) * 2 ^ ((e : Int) - 1074) = ((m * 2 ^ e : Nat) : ℚ) / unitsOfOne := by
  have hpow : (2 : ℚ) ^ ((e : Int) - 1074) = 2 ^ e / unitsOfOne := by
    rw [zpow_sub₀ two_ne_zero, zpow_natCast, unitsOfOne_eq]
    rfl
  rw [hpow, Nat.cast_mul, Nat.cast_pow, Nat.cast_two, mul_div_assoc]

/-- What the bits of a finite float are read as. -/
theorem read_of_lt {x : Float} (h : magnitudeBits x < infinityBits) :
    ∃ e m : Nat, magnitudeBits x = e * 2 ^ 52 + m ∧ m < 2 ^ 53 ∧ (2 ^ 52 ≤ m ∨ e = 0) ∧
      read x = .finite (isNegative x) m ((e : Int) - 1074) := by
  rw [infinityBits_eq] at h
  unfold read
  rw [twoTo_52]
  generalize magnitudeBits x = k at *
  by_cases hzero : k / 4503599627370496 = 0
  · refine ⟨0, k % 4503599627370496, by omega, by omega, .inr rfl, ?_⟩
    rw [if_neg (by omega), if_pos hzero]
    rfl
  · refine ⟨k / 4503599627370496 - 1, 4503599627370496 + k % 4503599627370496, by omega, by omega,
      .inl (by omega), ?_⟩
    rw [if_neg (by omega), if_neg hzero]
    congr 1
    omega

/-- **What a float stands for is what its units make up.** -/
theorem amount?_eq {x : Float} (h : isNaN x = false) :
    amount? x = some (ofUnits (signedUnits x)) := by
  rw [signedUnits_eq]
  rcases Nat.eq_or_lt_of_le (magnitudeBits_le h) with hinf | hfin
  · have hread : read x = .infinite (isNegative x) := by
      unfold read
      rw [hinf]
      rfl
    have hunits : units (magnitudeBits x) = allUnits := by
      unfold allUnits
      rw [hinf]
    unfold amount?
    rw [hread, hunits]
    cases isNegative x with
    | false => simp [ofUnits_allUnits]
    | true => simp [ofUnits_neg_allUnits]
  · obtain ⟨e, m, hbits, hm, hnormal, hread⟩ := read_of_lt hfin
    have hlt : (units (magnitudeBits x) : Int) < allUnits := by
      unfold allUnits
      exact_mod_cast units_strictMono hfin
    have hsize : (units (magnitudeBits x) : ℚ) / unitsOfOne = m * 2 ^ ((e : Int) - 1074) := by
      rw [hbits, units_mantissa hm.le hnormal, mantissa_eq_units]
    unfold amount?
    rw [hread]
    cases isNegative x with
    | false =>
        rw [ofUnits_of_lt (by simp; omega) (by simp; omega)]
        simp [hsize]
    | true =>
        rw [ofUnits_of_lt (by simp; omega) (by simp; omega)]
        simp [neg_div, hsize]

/-- What is no number stands for nothing. -/
theorem amount?_eq_none_iff {x : Float} : amount? x = none ↔ isNaN x = true := by
  cases h : isNaN x with
  | false => simp [amount?_eq h]
  | true =>
      have hnan : read x = .nan := by
        have hbits : magnitudeBits x < twoTo 63 := Nat.mod_lt _ (by decide)
        rw [isNaN, decide_eq_true_eq, infinityBits_eq] at h
        rw [twoTo_63] at hbits
        unfold read
        rw [twoTo_52, if_pos (by omega), if_neg (by omega)]
      simp [amount?, hnan]

/-- Floats that stand for the same share a place. -/
theorem amount?_eq_amount?_iff {x y : Float} (hx : isNaN x = false) (hy : isNaN y = false) :
    amount? x = amount? y ↔ rank x = rank y := by
  rw [amount?_eq hx, amount?_eq hy, Option.some_inj,
    ofUnits_strictMonoOn.injOn.eq_iff (signedUnits_mem hx) (signedUnits_mem hy)]
  exact unitsOfRank_strictMono.injective.eq_iff

/-- **Floats are ordered by what they stand for.** -/
theorem order_eq {x y : Float} (hx : isNaN x = false) (hy : isNaN y = false) :
    order x y = some (compare (ofUnits (signedUnits x)) (ofUnits (signedUnits y))) := by
  have hunits : compare (signedUnits x) (signedUnits y) = compare (rank x) (rank y) :=
    compare_of_strictMono unitsOfRank_strictMono _ _
  rw [order, hx, hy, compare_of_strictMonoOn ofUnits_strictMonoOn (signedUnits_mem hx)
    (signedUnits_mem hy), hunits]
  rfl

end Fanout.Number
