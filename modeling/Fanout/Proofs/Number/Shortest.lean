/-
  Fanout.Proofs.Number.Shortest
  ─────────────────────────────
  **The shortest decimal reads back as the float it was made from.**

  The ends of the neighbourhood of a float are its middles with the floats
  beside it, so that every number within it has the float as its nearest
  one.  On a grid that is finer than the gap below the float, the point
  below it lies in the neighbourhood; the search passes such a grid before
  it gives up.

    • `two_zpow_le_ten_zpow`, `ten_zpow_le_two_zpow` — powers of two and ten
      compared,
    • `nearestBits_of_holds` — what lies in the neighbourhood reads back,
    • `holds_of_gridPoint?`, `exists_gridPoint?` — points of a grid,
    • `search_spec`, `stripZeros_spec` — the search and what follows it,
    • `shortest_suits` — the shortest decimal lies in the neighbourhood, and
      neither its digits nor its exponent are large,
    • `floatOfDecimal_of_holds` — it reads back, however it is written.
-/
import Fanout.Number.Numeral
import Fanout.Proofs.Number.Nearest

namespace Fanout.Number

/-! ## §1. Powers of two and of ten. -/

/-- 2³³ is less than 10¹⁰, and 2¹⁰ is more than 10³. -/
theorem two_zpow_le_ten_zpow {x s : Int} (hpos : 0 ≤ s → 10 * x ≤ 33 * s)
    (hneg : s ≤ 0 → 3 * x ≤ 10 * s) : (2 : ℚ) ^ x ≤ 10 ^ s := by
  obtain ⟨n, rfl | rfl⟩ := s.eq_nat_or_neg
  · have hx := hpos (by omega)
    refine (pow_le_pow_iff_left₀ (by positivity) (by positivity) (n := 10) (by decide)).mp ?_
    calc ((2 : ℚ) ^ x) ^ 10 = 2 ^ (10 * x) := by rw [← zpow_natCast, ← zpow_mul, mul_comm]; rfl
      _ ≤ 2 ^ (33 * (n : Int)) := zpow_le_zpow_right₀ one_le_two hx
      _ = ((2 : ℚ) ^ 33) ^ n := by rw [zpow_mul, zpow_natCast]; norm_cast
      _ ≤ ((10 : ℚ) ^ 10) ^ n := by gcongr; norm_num
      _ = ((10 : ℚ) ^ (n : Int)) ^ 10 := by rw [zpow_natCast, ← pow_mul, ← pow_mul, mul_comm]
  · have hx := hneg (by omega)
    refine (pow_le_pow_iff_left₀ (by positivity) (by positivity) (n := 3) (by decide)).mp ?_
    calc ((2 : ℚ) ^ x) ^ 3 = 2 ^ (3 * x) := by rw [← zpow_natCast, ← zpow_mul, mul_comm]; rfl
      _ ≤ 2 ^ (10 * -(n : Int)) := zpow_le_zpow_right₀ one_le_two hx
      _ = (((2 : ℚ) ^ 10) ^ n)⁻¹ := by rw [zpow_mul, zpow_neg, zpow_natCast]; norm_cast
      _ ≤ (((10 : ℚ) ^ 3) ^ n)⁻¹ := by gcongr; norm_num
      _ = ((10 : ℚ) ^ (-(n : Int))) ^ 3 := by
        rw [zpow_neg, zpow_natCast, inv_pow, ← pow_mul, ← pow_mul, mul_comm]

theorem ten_zpow_le_two_zpow {x s : Int} (hpos : 0 ≤ s → 10 * s ≤ 3 * x)
    (hneg : s ≤ 0 → 33 * s ≤ 10 * x) : (10 : ℚ) ^ s ≤ 2 ^ x := by
  have h : (2 : ℚ) ^ (-x) ≤ 10 ^ (-s) :=
    two_zpow_le_ten_zpow (fun hs => by have := hneg (by omega); omega)
      (fun hs => by have := hpos (by omega); omega)
  rw [zpow_neg, zpow_neg] at h
  exact (inv_le_inv₀ (by positivity) (by positivity)).mp h

/-- An integer power as a quotient of natural ones. -/
theorem zpow_eq_div (base : Nat) (k : Int) :
    (base : ℚ) ^ k = (base ^ k.toNat : Nat) / (base ^ (-k).toNat : Nat) := by
  obtain ⟨n, rfl | rfl⟩ := k.eq_nat_or_neg
  · have hneg : (-(n : Int)).toNat = 0 := by omega
    rw [hneg, Int.toNat_natCast, zpow_natCast]
    simp
  · have hneg : (-(n : Int)).toNat = 0 := by omega
    rw [hneg, Int.neg_neg, Int.toNat_natCast, zpow_neg, zpow_natCast]
    simp

/-! ## §2. The neighbourhood of a float. -/

namespace Neighbourhood

variable {n : Neighbourhood} {q : ℚ}

/-- The number lies between the ends of the neighbourhood; on an end only if that belongs to it. -/
structure Holds (n : Neighbourhood) (q : ℚ) : Prop where
  /-- It is not below the lower end. -/
  low : (n.low : ℚ) / n.den ≤ q
  /-- It is not above the upper end. -/
  high : q ≤ n.high / n.den
  /-- It is no end that does not belong to the neighbourhood. -/
  inside : n.closed = false → (n.low : ℚ) / n.den < q ∧ q < n.high / n.den

end Neighbourhood

/-- A multiple of a quarter of the last place of a mantissa. -/
theorem quarters_eq (a : Nat) (exponent : Int) :
    ((a * twoTo (exponent - 2).toNat : Nat) : ℚ) / (twoTo (2 - exponent).toNat : Nat) =
      a * 2 ^ (exponent - 2) := by
  have hpow := zpow_eq_div 2 (exponent - 2)
  have hneg : -(exponent - 2) = 2 - exponent := by omega
  rw [hneg] at hpow
  rw [Nat.cast_mul, mul_div_assoc]
  congr 1
  exact hpow.symm

/-- The same in units, four times. -/
theorem quarter_units (a e : Nat) :
    ((a * twoTo ((e : Int) - 1074 - 2).toNat : Nat) : ℚ) / (twoTo (2 - ((e : Int) - 1074)).toNat : Nat) *
      unitsOfOne * 4 = a * 2 ^ e := by
  have h1074 : (2 : ℚ) ^ (1074 : Int) = 2 ^ 1074 := zpow_natCast 2 1074
  rw [quarters_eq, unitsOfOne_eq, zpow_sub₀ two_ne_zero, zpow_sub₀ two_ne_zero, zpow_natCast, h1074]
  field_simp
  norm_num

/-- **A quotient that is nearer to a float than its neighbours are reads back as the float**; as
near as a neighbour only if the bits of the float are even. -/
theorem nearestBits_eq {num den k : Nat} (hden : 0 < den) (hk : 0 < k) (hinf : k ≤ infinityBits)
    (hlow : (units (k - 1) : ℚ) + units k ≤ 2 * exactUnits num den)
    (hhigh : 2 * exactUnits num den ≤ units k + units (k + 1))
    (hodd : k % 2 = 1 → (units (k - 1) : ℚ) + units k < 2 * exactUnits num den ∧
      2 * exactUnits num den < units k + units (k + 1)) :
    nearestBits num den = k := by
  have hbefore : (units (k - 1) : ℚ) < units k := by exact_mod_cast units_strictMono (by omega)
  have hbehind : (units k : ℚ) < units (k + 1) := by exact_mod_cast units_strictMono (by omega)
  obtain ⟨j, hjlow, hjhigh, hbits⟩ := nearestBits_spec num hden
  have hj : ∀ {i : Nat}, (units i : ℚ) ≤ exactUnits num den → exactUnits num den < units (i + 1) →
      j = i := by
    intro i hilow hihigh
    have hji : j < i + 1 := units_strictMono.lt_iff_lt.mp (by exact_mod_cast hjlow.trans_lt hihigh)
    have hij : i < j + 1 := units_strictMono.lt_iff_lt.mp (by exact_mod_cast hilow.trans_lt hjhigh)
    omega
  rw [hbits]
  by_cases hbelow : (units k : ℚ) ≤ exactUnits num den
  · -- The float is the lower neighbour, and the quotient goes down.
    obtain rfl := hj hbelow (by linarith)
    have hdown : RoundsDown (exactUnits num den) (units j) (units (j + 1)) j := by
      rcases eq_or_lt_of_le hhigh with heq | hlt
      · refine .inr ⟨heq, ?_⟩
        by_contra hpar
        exact absurd heq (ne_of_lt (hodd (by omega)).2)
      · exact .inl hlt
    rw [if_pos hdown, Nat.min_eq_left hinf]
  · -- The float is the upper neighbour, and the quotient does not go down.
    obtain ⟨i, rfl⟩ : ∃ i, k = i + 1 := ⟨k - 1, by omega⟩
    rw [Nat.add_sub_cancel] at hlow hodd hbefore
    obtain rfl := hj (by linarith) (not_le.mp hbelow)
    have hup : ¬ RoundsDown (exactUnits num den) (units j) (units (j + 1)) j := by
      rintro (hlt | ⟨heq, heven⟩)
      · linarith
      · exact absurd heq (ne_of_gt (hodd (by omega)).1)
    rw [if_neg hup, Nat.min_eq_left hinf]

section Float

variable {e m : Nat}

/-- The float before one with this exponent and mantissa is nearer at a power of two. -/
theorem units_before (hm : m < 2 ^ 53) (hnormal : 2 ^ 52 ≤ m ∨ e = 0) (hpos : 0 < m) :
    (2 * (units (e * 2 ^ 52 + m - 1) + units (e * 2 ^ 52 + m)) : Nat) =
      (4 * m - if m = twoTo 52 ∧ -1074 < (e : Int) - 1074 then 1 else 2) * 2 ^ e := by
  rw [units_mantissa hm.le hnormal]
  by_cases hnarrow : m = twoTo 52 ∧ -1074 < (e : Int) - 1074
  · obtain ⟨rfl, he⟩ := hnarrow
    obtain ⟨f, rfl⟩ : ∃ f, e = f + 1 := ⟨e - 1, by omega⟩
    rw [if_pos ⟨rfl, he⟩, twoTo_52]
    have hprev : (f + 1) * 2 ^ 52 + 4503599627370496 - 1 = f * 2 ^ 52 + (2 ^ 53 - 1) := by omega
    rw [hprev, units_mantissa (by omega) (by omega), pow_succ]
    ring_nf
  · have hlast : e * 2 ^ 52 + m - 1 = e * 2 ^ 52 + (m - 1) := by omega
    have hstays : 2 ^ 52 ≤ m - 1 ∨ e = 0 := by
      rw [twoTo_52] at hnarrow
      omega
    rw [if_neg hnarrow, hlast, units_mantissa (by omega) hstays, ← add_mul, ← mul_assoc]
    congr 1
    omega

/-- **What lies in the neighbourhood of a float reads back as it.** -/
theorem nearestBits_of_holds (hm : m < 2 ^ 53) (hnormal : 2 ^ 52 ≤ m ∨ e = 0) (hpos : 0 < m)
    (hinf : e * 2 ^ 52 + m ≤ infinityBits) {num den : Nat} (hden : 0 < den)
    (h : (Neighbourhood.of m ((e : Int) - 1074)).Holds ((num : ℚ) / den)) :
    nearestBits num den = e * 2 ^ 52 + m := by
  have hone : (0 : ℚ) < unitsOfOne := by exact_mod_cast unitsOfOne_pos
  have hbefore := units_before hm hnormal hpos
  obtain ⟨hthis, hbehind⟩ := units_neighbours hm hnormal
  -- Both ends in units, four times each.
  have hlow := quarter_units (4 * m - if m = twoTo 52 ∧ -1074 < (e : Int) - 1074 then 1 else 2) e
  have hhigh := quarter_units (4 * m + 2) e
  have hlow' : ((2 * (units (e * 2 ^ 52 + m - 1) + units (e * 2 ^ 52 + m)) : Nat) : ℚ) =
      (Neighbourhood.of m ((e : Int) - 1074)).low / (Neighbourhood.of m ((e : Int) - 1074)).den *
        unitsOfOne * 4 := by
    rw [hbefore]
    push_cast
    exact hlow.symm
  have hhigh' : ((2 * (units (e * 2 ^ 52 + m) + units (e * 2 ^ 52 + m + 1)) : Nat) : ℚ) =
      (Neighbourhood.of m ((e : Int) - 1074)).high / (Neighbourhood.of m ((e : Int) - 1074)).den *
        unitsOfOne * 4 := by
    rw [hthis, hbehind, ← add_mul, ← mul_assoc, show 2 * (m + (m + 1)) = 4 * m + 2 by omega]
    rw [Nat.cast_mul, Nat.cast_pow, Nat.cast_two]
    exact hhigh.symm
  push_cast at hlow' hhigh'
  obtain ⟨hl, hh, hinside⟩ := h
  have hscale : exactUnits num den = (num : ℚ) / den * unitsOfOne := rfl
  refine nearestBits_eq hden (by omega) hinf ?_ ?_ fun hodd => ?_
  · have hle := mul_le_mul_of_nonneg_right hl hone.le
    rw [hscale]
    linarith
  · have hle := mul_le_mul_of_nonneg_right hh hone.le
    rw [hscale]
    linarith
  · -- The bits are odd as the mantissa is.
    have hclosed : (Neighbourhood.of m ((e : Int) - 1074)).closed = false :=
      decide_eq_false (by omega)
    obtain ⟨hl, hh⟩ := hinside hclosed
    have hlt := mul_lt_mul_of_pos_right hl hone
    have hlt' := mul_lt_mul_of_pos_right hh hone
    rw [hscale]
    exact ⟨by linarith, by linarith⟩

end Float

/-! ## §3. Points of grids. -/

namespace Neighbourhood

variable {n : Neighbourhood} {k : Int}

/-- The step of a grid, over the denominator of the neighbourhood and that of the grid. -/
def step (n : Neighbourhood) (k : Int) : Nat := n.den * tenTo k.toNat

/-- The denominator of a grid. -/
def scale (k : Int) : Nat := tenTo (-k).toNat

theorem step_pos (hden : 0 < n.den) (k : Int) : 0 < n.step k := Nat.mul_pos hden (tenTo_pos _)

theorem scale_pos (k : Int) : 0 < scale k := tenTo_pos _

/-- A point of a grid over both denominators. -/
theorem point_eq (hden : 0 < n.den) (k : Int) (p : Nat) :
    (p : ℚ) * 10 ^ k = (p * n.step k : Nat) / (n.den * scale k : Nat) := by
  have hd : (n.den : ℚ) ≠ 0 := by exact_mod_cast hden.ne'
  have hpow := zpow_eq_div 10 k
  have hs : ((10 ^ (-k).toNat : Nat) : ℚ) ≠ 0 := by positivity
  show _ = ((p * (n.den * 10 ^ k.toNat) : Nat) : ℚ) / (n.den * 10 ^ (-k).toNat : Nat)
  rw [show (10 : ℚ) = (10 : Nat) from rfl, hpow]
  push_cast at hs ⊢
  field_simp

/-- So is an end. -/
theorem end_eq (n : Neighbourhood) (k : Int) (a : Nat) :
    (a : ℚ) / n.den = (a * scale k : Nat) / (n.den * scale k : Nat) := by
  have hs : (scale k : ℚ) ≠ 0 := by exact_mod_cast (scale_pos k).ne'
  push_cast
  rw [mul_div_mul_right _ _ hs]

/-- The point of a grid below the float. -/
def below (n : Neighbourhood) (k : Int) : Nat := n.mid * scale k / n.step k

/-- A point with the ends around it lies in the neighbourhood. -/
theorem holds_of_ends (hden : 0 < n.den) {p : Nat}
    (hlow : n.low * scale k ≤ p * n.step k) (hhigh : p * n.step k ≤ n.high * scale k)
    (hinside : n.closed = false → n.low * scale k < p * n.step k ∧ p * n.step k < n.high * scale k) :
    n.Holds ((p : ℚ) * 10 ^ k) := by
  have hd : (0 : ℚ) < (n.den * scale k : Nat) := by exact_mod_cast Nat.mul_pos hden (scale_pos k)
  have hle : ∀ {a b : Nat}, a ≤ b → (a : ℚ) / (n.den * scale k : Nat) ≤ b / (n.den * scale k : Nat) :=
    fun hab => div_le_div_of_nonneg_right (by exact_mod_cast hab) hd.le
  have hlt : ∀ {a b : Nat}, a < b → (a : ℚ) / (n.den * scale k : Nat) < b / (n.den * scale k : Nat) :=
    fun hab => div_lt_div_of_pos_right (by exact_mod_cast hab) hd
  constructor
  · rw [end_eq n k, point_eq hden k]
    exact hle hlow
  · rw [end_eq n k, point_eq hden k]
    exact hle hhigh
  · intro hopen
    obtain ⟨hl, hh⟩ := hinside hopen
    rw [end_eq n k, end_eq n k, point_eq hden k]
    exact ⟨hlt hl, hlt hh⟩

/-- A comparison that an end belongs to or not. -/
theorem fits_iff (closed : Bool) (a b : Nat) :
    (if closed then decide (a ≤ b) else decide (a < b)) = true ↔ a ≤ b ∧ (closed = false → a < b) := by
  cases closed with
  | false => simpa using fun h => Nat.le_of_lt h
  | true => simp

/-- The point below the float is not above it, and the next one is. -/
theorem below_bounds (hden : 0 < n.den) (k : Int) :
    n.below k * n.step k ≤ n.mid * scale k ∧ n.mid * scale k < (n.below k + 1) * n.step k := by
  unfold below
  refine ⟨Nat.div_mul_le_self _ _, ?_⟩
  rw [Nat.add_mul, Nat.one_mul]
  exact Nat.lt_div_mul_add (step_pos hden k)

/-- **A point that a grid contributes lies in the neighbourhood.** -/
theorem holds_of_gridPoint? (hden : 0 < n.den) (hlow : n.low < n.mid) (hhigh : n.mid < n.high)
    {p : Nat} (h : n.gridPoint? k = some p) : n.Holds ((p : ℚ) * 10 ^ k) := by
  obtain ⟨hunder, hover⟩ := below_bounds hden k
  have hl := Nat.mul_lt_mul_of_pos_right hlow (scale_pos k)
  have hh := Nat.mul_lt_mul_of_pos_right hhigh (scale_pos k)
  -- The other end is on the other side of the float.
  have hbelow : n.low * scale k ≤ n.below k * n.step k ∧
      (n.closed = false → n.low * scale k < n.below k * n.step k) →
      n.Holds ((n.below k : ℚ) * 10 ^ k) := fun hfits =>
    holds_of_ends hden hfits.1 (by omega) fun hopen => ⟨hfits.2 hopen, by omega⟩
  have habove : (n.below k + 1) * n.step k ≤ n.high * scale k ∧
      (n.closed = false → (n.below k + 1) * n.step k < n.high * scale k) →
      n.Holds (((n.below k + 1 : Nat) : ℚ) * 10 ^ k) := fun hfits =>
    holds_of_ends hden (by omega) hfits.1 fun hopen => ⟨by omega, hfits.2 hopen⟩
  unfold gridPoint? at h
  dsimp only at h
  split at h
  next hb ha =>
    cases h
    split
    · exact habove ((fits_iff _ _ _).mp ha)
    · exact hbelow ((fits_iff _ _ _).mp hb)
  next hb _ =>
    cases h
    exact hbelow ((fits_iff _ _ _).mp hb)
  next _ ha =>
    cases h
    exact habove ((fits_iff _ _ _).mp ha)
  next => cases h

/-- **A grid that is finer than the gap below the float contributes a point.** -/
theorem exists_gridPoint? (hden : 0 < n.den)
    (hfine : n.low * scale k + n.step k ≤ n.mid * scale k) : ∃ p, n.gridPoint? k = some p := by
  obtain ⟨-, hover⟩ := below_bounds hden k
  rw [Nat.add_mul, Nat.one_mul] at hover
  have hfits := (fits_iff n.closed (n.low * scale k) (n.below k * n.step k)).mpr
    ⟨by omega, fun _ => by omega⟩
  unfold gridPoint?
  dsimp only
  split
  next => exact ⟨_, rfl⟩
  next => exact ⟨_, rfl⟩
  next => exact ⟨_, rfl⟩
  next hb _ =>
    have hb : (if n.closed then decide (n.low * scale k ≤ n.below k * n.step k)
      else decide (n.low * scale k < n.below k * n.step k)) = false := hb
    rw [hfits] at hb
    cases hb

/-! ## §4. The search. -/

/-- **The search ends at a grid with a point**, if one of the grids that it tries has one. -/
theorem search_spec {fuel : Nat} (h : ∃ j, k - fuel < j ∧ j ≤ k ∧ ∃ p, n.gridPoint? j = some p) :
    ∃ j p, n.search fuel k = ⟨p, j⟩ ∧ k - fuel < j ∧ j ≤ k ∧ n.gridPoint? j = some p := by
  induction fuel generalizing k with
  | zero =>
      obtain ⟨j, hlow, hhigh, -⟩ := h
      omega
  | succ fuel ih =>
      rw [search]
      cases hpoint : n.gridPoint? k with
      | some p => exact ⟨k, p, rfl, by omega, le_refl k, hpoint⟩
      | none =>
          obtain ⟨j, hlow, hhigh, p, hp⟩ := h
          have hne : j ≠ k := fun hjk => by
            rw [hjk, hpoint] at hp
            cases hp
          obtain ⟨i, q, hsearch, hilow, hihigh, hq⟩ :=
            ih (k := k - 1) ⟨j, by omega, by omega, p, hp⟩
          exact ⟨i, q, hsearch, by omega, by omega, hq⟩

end Neighbourhood

/-- **Zeros at the end are moved into the exponent**, and the number stays the same. -/
theorem stripZeros_spec (fuel digits : Nat) (exponent : Int) :
    ∃ j : Nat, j ≤ fuel ∧ (stripZeros fuel digits exponent).exponent = exponent + j ∧
      (stripZeros fuel digits exponent).digits * 10 ^ j = digits := by
  induction fuel generalizing digits exponent with
  | zero => exact ⟨0, le_refl 0, by simp [stripZeros], by simp [stripZeros]⟩
  | succ fuel ih =>
      rw [stripZeros]
      by_cases h : digits ≠ 0 ∧ digits % 10 = 0
      · obtain ⟨j, hj, hexponent, hdigits⟩ := ih (digits / 10) (exponent + 1)
        rw [if_pos h]
        refine ⟨j + 1, by omega, by omega, ?_⟩
        rw [pow_succ, ← mul_assoc, hdigits]
        omega
      · rw [if_neg h]
        exact ⟨0, by omega, by simp, by simp⟩

/-! ## §5. The shortest decimal. -/

/-- The decimal stands for a number in the neighbourhood, with digits and an exponent that are not
large. -/
structure Decimal.Suits (d : Decimal) (n : Neighbourhood) : Prop where
  /-- There are digits. -/
  pos : 0 < d.digits
  /-- There are few of them. -/
  digits_lt : d.digits < 2 ^ 100
  /-- The exponent is not far below 0. -/
  low : -360 ≤ d.exponent
  /-- It is not far above 0. -/
  high : d.exponent ≤ 340
  /-- The number lies in the neighbourhood. -/
  holds : n.Holds (d.digits * 10 ^ d.exponent)

section Shortest

variable {m : Nat} {exponent : Int}

theorem den_pos (m : Nat) (exponent : Int) : 0 < (Neighbourhood.of m exponent).den := twoTo_pos _

/-- The float lies between the ends of its neighbourhood, at least a quarter of the last place
above the lower one. -/
theorem ends_around (hpos : 0 < m) (exponent : Int) :
    (Neighbourhood.of m exponent).low + twoTo (exponent - 2).toNat ≤
        (Neighbourhood.of m exponent).mid ∧
      (Neighbourhood.of m exponent).mid < (Neighbourhood.of m exponent).high := by
  have hup := twoTo_pos (exponent - 2).toNat
  constructor
  · show (4 * m - if _ then 1 else 2) * twoTo (exponent - 2).toNat + _ ≤
      4 * m * twoTo (exponent - 2).toNat
    rw [← Nat.succ_mul]
    refine Nat.mul_le_mul_right _ ?_
    split <;> omega
  · exact Nat.mul_lt_mul_of_pos_right (by omega) hup

theorem low_pos (hpos : 0 < m) (exponent : Int) : 0 < (Neighbourhood.of m exponent).low := by
  refine Nat.mul_pos ?_ (twoTo_pos _)
  split <;> omega

/-- The upper end in bits of the mantissa. -/
theorem high_le (m : Nat) (exponent : Int) :
    ((Neighbourhood.of m exponent).high : ℚ) / (Neighbourhood.of m exponent).den ≤
      2 ^ ((m.log2 : Int) + exponent + 1) := by
  have hm : 4 * m + 2 ≤ 4 * 2 ^ (m.log2 + 1) := by
    have := @Nat.lt_log2_self m
    omega
  have hcast : ((4 * m + 2 : Nat) : ℚ) ≤ 4 * 2 ^ (m.log2 + 1) := by exact_mod_cast hm
  have hquarters := quarters_eq (4 * m + 2) exponent
  calc ((Neighbourhood.of m exponent).high : ℚ) / (Neighbourhood.of m exponent).den
      = (4 * m + 2 : Nat) * 2 ^ (exponent - 2) := hquarters
    _ ≤ 4 * 2 ^ (m.log2 + 1) * 2 ^ (exponent - 2) := by gcongr
    _ = 2 ^ ((m.log2 : Int) + exponent + 1) := by
      rw [show (4 : ℚ) = 2 ^ (2 : Int) by norm_num, ← zpow_natCast, ← zpow_add₀ two_ne_zero,
        ← zpow_add₀ two_ne_zero]
      congr 1
      push_cast
      omega

/-- The last grid that the search tries is fine enough. -/
theorem exists_gridPoint?_last (hpos : 0 < m) (hm : m < 2 ^ 53) (hlow : -1074 ≤ exponent)
    (hhigh : exponent ≤ 971) :
    ∃ p, (Neighbourhood.of m exponent).gridPoint? (startExponent m exponent - 23) = some p := by
  have hlog : m.log2 < 53 := (Nat.log2_lt hpos.ne').mpr hm
  have hfine : (10 : ℚ) ^ (startExponent m exponent - 23) ≤ 2 ^ (exponent - 2) := by
    unfold startExponent
    exact ten_zpow_le_two_zpow (fun _ => by omega) (fun _ => by omega)
  generalize startExponent m exponent - 23 = k at hfine
  -- The same in natural numbers.
  have hstep : (Neighbourhood.of m exponent).step k ≤
      twoTo (exponent - 2).toNat * Neighbourhood.scale k := by
    have hten := zpow_eq_div 10 k
    have htwo := zpow_eq_div 2 (exponent - 2)
    rw [show -(exponent - 2) = 2 - exponent by omega] at htwo
    rw [show (10 : ℚ) = (10 : Nat) from rfl, show (2 : ℚ) = (2 : Nat) from rfl, hten, htwo,
      div_le_div_iff₀ (by positivity) (by positivity)] at hfine
    have hnat : 10 ^ k.toNat * 2 ^ (2 - exponent).toNat ≤
        2 ^ (exponent - 2).toNat * 10 ^ (-k).toNat := by exact_mod_cast hfine
    rw [Nat.mul_comm] at hnat
    exact hnat
  obtain ⟨hgap, -⟩ := ends_around hpos exponent
  refine Neighbourhood.exists_gridPoint? (den_pos m exponent) ?_
  have hscaled := Nat.mul_le_mul_right (Neighbourhood.scale k) hgap
  rw [Nat.add_mul] at hscaled
  omega

/-- A point of a grid that the search tries is not above 2 ^ x, and the step of the grid is not below
2 ^ (x - 99). -/
theorem lt_of_holds (hlog : m.log2 < 53) (hlow : -1074 ≤ exponent) (hhigh : exponent ≤ 971)
    {p : Nat} {k : Int} (hgrid : startExponent m exponent - 24 < k)
    (h : (Neighbourhood.of m exponent).Holds ((p : ℚ) * 10 ^ k)) : p < 2 ^ 100 := by
  have htop := high_le m exponent
  have hten : (2 : ℚ) ^ ((m.log2 : Int) + exponent + 1 - 99) ≤ 10 ^ k := by
    unfold startExponent at hgrid
    exact two_zpow_le_ten_zpow (fun _ => by omega) (fun _ => by omega)
  have hsplit : (2 : ℚ) ^ ((m.log2 : Int) + exponent + 1) =
      2 ^ 99 * 2 ^ ((m.log2 : Int) + exponent + 1 - 99) := by
    rw [← zpow_natCast, ← zpow_add₀ two_ne_zero]
    congr 1
    omega
  have hstep : (0 : ℚ) < 2 ^ ((m.log2 : Int) + exponent + 1 - 99) := by positivity
  have hbound : (p : ℚ) * 2 ^ ((m.log2 : Int) + exponent + 1 - 99) ≤
      2 ^ 99 * 2 ^ ((m.log2 : Int) + exponent + 1 - 99) := by
    rw [← hsplit]
    exact le_trans (mul_le_mul_of_nonneg_left hten (by positivity)) (h.high.trans htop)
  have hle : (p : ℚ) ≤ 2 ^ 99 := le_of_mul_le_mul_right hbound hstep
  have hnat : p ≤ 2 ^ 99 := by exact_mod_cast hle
  omega

/-- Nor is it zero. -/
theorem pos_of_holds (hpos : 0 < m) {p : Nat} {k : Int}
    (h : (Neighbourhood.of m exponent).Holds ((p : ℚ) * 10 ^ k)) : 0 < p := by
  refine Nat.pos_of_ne_zero fun hzero => ?_
  have hle := h.low
  have hden := den_pos m exponent
  have hlow := low_pos hpos exponent
  rw [hzero, Nat.cast_zero, zero_mul] at hle
  have hpositive : (0 : ℚ) <
      (Neighbourhood.of m exponent).low / (Neighbourhood.of m exponent).den := by
    positivity
  linarith

/-- **The shortest decimal suits the neighbourhood of its float.** -/
theorem shortest_suits (hpos : 0 < m) (hm : m < 2 ^ 53) (hlow : -1074 ≤ exponent)
    (hhigh : exponent ≤ 971) : (shortest m exponent).Suits (Neighbourhood.of m exponent) := by
  obtain ⟨hgap, habove⟩ := ends_around hpos exponent
  have hbelow : (Neighbourhood.of m exponent).low < (Neighbourhood.of m exponent).mid := by
    have := twoTo_pos (exponent - 2).toNat
    omega
  have hlog : m.log2 < 53 := (Nat.log2_lt hpos.ne').mpr hm
  have hgrid : ∃ j, startExponent m exponent - (24 : Nat) < j ∧ j ≤ startExponent m exponent ∧
      ∃ p, (Neighbourhood.of m exponent).gridPoint? j = some p :=
    ⟨startExponent m exponent - 23, by omega, by omega, exists_gridPoint?_last hpos hm hlow hhigh⟩
  obtain ⟨j, p, hsearch, hjlow, hjhigh, hpoint⟩ := Neighbourhood.search_spec hgrid
  have hholds := Neighbourhood.holds_of_gridPoint? (den_pos m exponent) hbelow habove hpoint
  have hfew := lt_of_holds hlog hlow hhigh hjlow hholds
  have hsome := pos_of_holds hpos hholds
  obtain ⟨i, hi, hexponent, hdigits⟩ := stripZeros_spec 20 p j
  have hshortest : shortest m exponent = stripZeros 20 p j := by
    unfold shortest
    dsimp only
    rw [hsearch]
  rw [hshortest]
  generalize stripZeros 20 p j = d at *
  unfold startExponent at hjlow hjhigh
  refine ⟨?_, ?_, by omega, by omega, ?_⟩
  · refine Nat.pos_of_ne_zero fun hzero => ?_
    rw [hzero] at hdigits
    omega
  · refine lt_of_le_of_lt ?_ hfew
    rw [← hdigits]
    exact Nat.le_mul_of_pos_right _ (by positivity)
  · have hvalue : (d.digits : ℚ) * 10 ^ d.exponent = p * 10 ^ j := by
      rw [← hdigits, hexponent, zpow_add₀ (by norm_num), zpow_natCast]
      push_cast
      ring
    rw [hvalue]
    exact hholds

/-- **A decimal in the neighbourhood of a float reads back as the float**, as long as its digits and
its exponent do not rule it out. -/
theorem floatOfDecimal_of_holds {e b digits : Nat} (hm : m < 2 ^ 53) (hnormal : 2 ^ 52 ≤ m ∨ e = 0)
    (hpos : 0 < m) (hinf : e * 2 ^ 52 + m ≤ infinityBits) (negative : Bool) (hdigits : 0 < digits)
    (hfew : digits < 2 ^ b) (hlow : -400 ≤ exponent)
    (hhigh : (b : Int) * 30103 / 100000 + exponent ≤ 400)
    (h : (Neighbourhood.of m ((e : Int) - 1074)).Holds ((digits : ℚ) * 10 ^ exponent)) :
    floatOfDecimal negative digits exponent = ofMagnitudeBits negative (e * 2 ^ 52 + m) := by
  have hlog : digits.log2 < b := (Nat.log2_lt hdigits.ne').mpr hfew
  have hquotient : (digits : ℚ) * 10 ^ exponent =
      ((digits * tenTo exponent.toNat : Nat) : ℚ) / (tenTo (-exponent).toNat : Nat) := by
    rw [Nat.cast_mul, mul_div_assoc]
    congr 1
    exact zpow_eq_div 10 exponent
  rw [hquotient] at h
  unfold floatOfDecimal
  dsimp only
  rw [if_neg (by omega), if_neg (by omega), if_neg (by omega), nearest,
    nearestBits_of_holds hm hnormal hpos hinf (tenTo_pos _) h]

end Shortest

end Fanout.Number
