/-
  Fanout.Proofs.Comparison
  ────────────────────────
  **Equality and order of values.**

  Two integers are compared exactly, and so are two floats.  Between an
  integer and a float the float nearest to the integer decides: such a
  comparison is exact unless it takes two different numbers for equal.
  Everything but transitivity survives this, and transitivity breaks only
  where a float stands between two different integers that it is nearest to.

    • `Numeric.order_eq_compare_place` — which two places are compared,
    • `Numeric.place_le_trans` — where `≤` is transitive,
    • `Numeric.compare_place` — where the order is that of the amounts,
    • `Numeric.Blurs.exists_int` — up to 2⁵³ it always is,
    • `Value.order_coherent` — equality and order of all values.
-/
import Fanout.Proofs.Expr.Integer
import Fanout.Proofs.Number.Conversion

namespace Fanout

open Fanout.Number Fanout.Expr

/-! ## §1. Numbers as places. -/

namespace Numeric

/-- Is it no number at all? -/
def isNaN : Numeric → Bool
  | .int _ => false
  | .float x => Number.isNaN x

/-- The place of a number when it is compared with `y`: integers among themselves have the places of
integers, all others those of floats. -/
def place : Numeric → Numeric → Int
  | .int a, .int _ => a.toInt
  | x, _ => rank x.toFloat

/-- A number in units. -/
def units : Numeric → Int
  | .int a => a.toInt * unitsOfOne
  | .float x => signedUnits x

/-- What a number stands for. -/
def amount? : Numeric → Option Amount
  | .int a => some (finite a.toInt)
  | .float x => Number.amount? x

/-- The second of three numbers is a float, and the nearest one to each of the others, which are
different integers. -/
def Parts : Numeric → Numeric → Numeric → Prop
  | .int a, .float x, .int c =>
    a.toInt ≠ c.toInt ∧ Number.amount? (floatOfWord a) = Number.amount? x ∧
      Number.amount? (floatOfWord c) = Number.amount? x
  | _, _, _ => False

/-- One of two numbers is an integer, the other one the float nearest to it, and they stand for
different numbers. -/
def Blurs : Numeric → Numeric → Prop
  | .int a, .float x =>
    Number.amount? (floatOfWord a) = Number.amount? x ∧ Number.amount? x ≠ some (finite a.toInt)
  | .float x, .int a =>
    Number.amount? (floatOfWord a) = Number.amount? x ∧ Number.amount? x ≠ some (finite a.toInt)
  | _, _ => False

variable {x y z : Numeric}

theorem isNaN_toFloat (hx : x.isNaN = false) : Number.isNaN x.toFloat = false := by
  cases x with
  | int a => exact isNaN_floatOfInt _
  | float x => exact hx

/-- **Two numbers are compared by their places.** -/
theorem order_eq_compare_place (hx : x.isNaN = false) (hy : y.isNaN = false) :
    x.order y = some (compare (x.place y) (y.place x)) := by
  have hfloat : Number.order x.toFloat y.toFloat =
      some (compare (rank x.toFloat) (rank y.toFloat)) := by
    rw [Number.order, isNaN_toFloat hx, isNaN_toFloat hy]
    rfl
  cases x <;> cases y <;> first | rfl | exact hfloat

/-! ## §2. Where `≤` is transitive. -/

/-- Whatever the places are, the floats are in the same order. -/
theorem rank_le_of_place_le (h : x.place y ≤ y.place x) : rank x.toFloat ≤ rank y.toFloat := by
  cases x with
  | float x => cases y <;> exact h
  | int a =>
      cases y with
      | float y => exact h
      | int b => exact rank_floatOfInt_mono h

theorem mul_unitsOfOne_strictMono : StrictMono fun n : Int => n * unitsOfOne := by
  have hone : (0 : Int) < unitsOfOne := by exact_mod_cast unitsOfOne_pos
  exact strictMono_mul_right_of_pos hone

theorem units_lt_iff {a b : Int64} :
    (Numeric.int a).units < (Numeric.int b).units ↔ a.toInt < b.toInt :=
  mul_unitsOfOne_strictMono.lt_iff_lt

/-- **`≤` is transitive, unless it leads down from an integer to a smaller one**, by a float that
is nearest to both. -/
theorem place_le_trans (hy : y.isNaN = false) (hxy : x.place y ≤ y.place x)
    (hyz : y.place z ≤ z.place y) :
    x.place z ≤ z.place x ↔ ¬ (x.Parts y z ∧ z.units < x.units) := by
  have hxy' := rank_le_of_place_le hxy
  have hyz' := rank_le_of_place_le hyz
  cases x with
  | float x => exact iff_of_true (by cases z <;> exact hxy'.trans hyz') fun h => h.1
  | int a =>
  cases z with
  | float z => exact iff_of_true (hxy'.trans hyz') fun h => by cases y <;> exact h.1
  | int c =>
  cases y with
  | int b => exact iff_of_true (le_trans (b := b.toInt) hxy hyz) fun h => h.1
  | float y =>
      show a.toInt ≤ c.toInt ↔ _
      rw [units_lt_iff]
      constructor
      · rintro hle ⟨-, hlt⟩
        omega
      · intro hnot
        by_contra hlt
        -- The three floats have one place.
        have hmono : rank (floatOfWord c) ≤ rank (floatOfWord a) :=
          rank_floatOfInt_mono (by omega : c.toInt ≤ a.toInt)
        have ha : rank (floatOfWord a) = rank y := le_antisymm hxy' (hyz'.trans hmono)
        have hc : rank (floatOfWord c) = rank y := le_antisymm (hmono.trans hxy') hyz'
        exact hnot ⟨⟨by omega, (amount?_floatOfWord_eq_iff hy).mpr ha,
          (amount?_floatOfWord_eq_iff hy).mpr hc⟩, by omega⟩

theorem Parts.symm (h : x.Parts y z) : z.Parts y x := by
  cases x <;> cases y <;> cases z <;> first | exact h | exact ⟨h.1.symm, h.2.2, h.2.1⟩

theorem Parts.units_ne (h : x.Parts y z) : x.units ≠ z.units := by
  cases x <;> cases y <;> cases z <;> try exact h.elim
  next a _ c =>
    intro heq
    have hlt := units_lt_iff (a := a) (b := c)
    have hgt := units_lt_iff (a := c) (b := a)
    have hne := h.1
    omega

/-- Two steps of equality lead from an integer to itself, or by a float to another one. -/
theorem place_eq_trans (hy : y.isNaN = false) (hxy : x.place y = y.place x)
    (hyz : y.place z = z.place y) : x.place z = z.place x ↔ ¬ x.Parts y z := by
  have hup := place_le_trans hy hxy.le hyz.le
  have hdown := place_le_trans hy hyz.ge hxy.ge
  constructor
  · intro heq hparts
    rcases lt_or_gt_of_ne hparts.units_ne with hlt | hgt
    · exact hdown.mp heq.ge ⟨hparts.symm, hlt⟩
    · exact hup.mp heq.le ⟨hparts, hgt⟩
  · intro hnot
    exact le_antisymm (hup.mpr fun h => hnot h.1) (hdown.mpr fun h => hnot h.1.symm)

/-! ## §3. Where the order is exact. -/

theorem units_mem (hx : x.isNaN = false) : x.units ∈ Set.Icc (-(allUnits : Int)) allUnits := by
  cases x with
  | int a => exact mul_unitsOfOne_mem a
  | float x => exact signedUnits_mem hx

theorem amount?_eq_ofUnits (hx : x.isNaN = false) : x.amount? = some (ofUnits x.units) := by
  cases x with
  | int a =>
      exact congrArg some (ofUnits_mul_unitsOfOne (minWord_le_toInt a) (toInt_le_maxWord a)).symm
  | float x => exact amount?_eq hx

/-- Blurred numbers share a place, and stand for different numbers. -/
theorem Blurs.place_eq (hx : x.isNaN = false) (hy : y.isNaN = false) (h : x.Blurs y) :
    x.place y = y.place x ∧ x.units ≠ y.units := by
  cases x <;> cases y <;> try exact h.elim
  next a y =>
    exact ⟨(amount?_floatOfWord_eq_iff hy).mp h.1,
      fun heq => h.2 ((amount?_eq_finite_iff hy).mpr heq.symm)⟩
  next x a =>
    exact ⟨((amount?_floatOfWord_eq_iff hx).mp h.1).symm,
      fun heq => h.2 ((amount?_eq_finite_iff hx).mpr heq)⟩

/-- **Numbers that are not blurred are ordered by what they stand for.** -/
theorem compare_place (hx : x.isNaN = false) (hy : y.isNaN = false) (h : ¬ x.Blurs y) :
    compare (x.place y) (y.place x) = compare x.units y.units := by
  cases x with
  | int a =>
      cases y with
      | int b => exact (compare_of_strictMono mul_unitsOfOne_strictMono a.toInt b.toInt).symm
      | float y => exact compare_rank_floatOfWord hy fun hblur => by_contra fun hne => h ⟨hblur, hne⟩
  | float x =>
      cases y with
      | int b =>
          have hswap := compare_rank_floatOfWord (w := b) hx
            fun hblur => by_contra fun hne => h ⟨hblur, hne⟩
          show compare (rank x) (rank (floatOfWord b)) = compare (signedUnits x) (b.toInt * unitsOfOne)
          rw [← Int.compare_swap, hswap, Int.compare_swap]
      | float y => exact (compare_of_strictMono unitsOfRank_strictMono (rank x) (rank y)).symm

theorem compare_amount {p q : Amount} (hx : x.isNaN = false) (hy : y.isNaN = false)
    (hp : x.amount? = some p) (hq : y.amount? = some q) :
    compare p q = compare x.units y.units := by
  rw [amount?_eq_ofUnits hx, Option.some_inj] at hp
  rw [amount?_eq_ofUnits hy, Option.some_inj] at hq
  rw [← hp, ← hq]
  exact compare_of_strictMonoOn ofUnits_strictMonoOn (units_mem hx) (units_mem hy)

/-- An integer whose nearest float stands for another number is beyond 2⁵³. -/
theorem lt_natAbs_of_ne {w : Int64} {f : Float}
    (hnearest : Number.amount? (floatOfWord w) = Number.amount? f)
    (hother : Number.amount? f ≠ some (finite w.toInt)) : 2 ^ 53 < w.toInt.natAbs := by
  by_contra hle
  have hexact : Number.amount? (floatOfWord w) = some (finite w.toInt) :=
    (amount?_eq_finite_iff (isNaN_floatOfInt _)).mpr (signedUnits_floatOfInt (not_lt.mp hle))
  exact hother (hnearest ▸ hexact)

/-- **Only integers beyond 2⁵³ are blurred.** -/
theorem Blurs.exists_int (h : x.Blurs y) :
    ∃ w : Int64, (x = .int w ∨ y = .int w) ∧ 2 ^ 53 < w.toInt.natAbs := by
  cases x <;> cases y <;> try exact h.elim
  next a f => exact ⟨a, .inl rfl, lt_natAbs_of_ne h.1 h.2⟩
  next f a => exact ⟨a, .inr rfl, lt_natAbs_of_ne h.1 h.2⟩

/-- A float between two integers that it is nearest to can stand for one of them only. -/
theorem Parts.blurs (h : x.Parts y z) : x.Blurs y ∨ y.Blurs z := by
  cases x <;> cases y <;> cases z <;> try exact h.elim
  next a f c =>
    obtain ⟨hne, ha, hc⟩ := h
    by_cases hexact : Number.amount? f = some (finite a.toInt)
    · refine .inr ⟨hc, fun hother => hne ?_⟩
      have heq : finite a.toInt = finite c.toInt := Option.some.inj (hexact.symm.trans hother)
      exact_mod_cast finite_injective heq
    · exact .inl ⟨ha, hexact⟩

end Numeric

/-! ## §4. Values. -/

namespace Value

/-- Is it the float that is no number? -/
def isNaN : Value → Bool
  | .float x => Number.isNaN x
  | _ => false

/-- The amount that a number stands for, a truth value being 0 or 1. -/
def amount? : Value → Option Amount
  | .bool b => some (finite (if b then 1 else 0))
  | .int w => some (finite w.toInt)
  | .float x => Number.amount? x
  | _ => .none

/-- The second of three values is a float, and the nearest one to each of the others, which are
different integers. -/
def Parted (a b c : Value) : Prop :=
  ∃ x y z, a.numeric? = some x ∧ b.numeric? = some y ∧ c.numeric? = some z ∧ x.Parts y z

/-- One of two values is an integer, the other one the float nearest to it, and they stand for
different numbers. -/
def Blurred (a b : Value) : Prop :=
  ∃ x y, a.numeric? = some x ∧ b.numeric? = some y ∧ x.Blurs y

variable {a b c : Value} {x y z : Numeric}

theorem isNaN_numeric (hx : a.numeric? = some x) : x.isNaN = a.isNaN := by
  cases a <;> cases hx <;> rfl

theorem amount?_numeric (hx : a.numeric? = some x) : x.amount? = a.amount? := by
  cases a <;> cases hx <;> try rfl
  next b => cases b <;> rfl

/-- The values that stand for an amount are the truth values, the integers and all floats but the
one that is no number. -/
theorem exists_amount?_iff :
    (∃ p, a.amount? = some p) ↔ a.isNaN = false ∧ ∃ x, a.numeric? = some x := by
  cases a with
  | bool | int => exact iff_of_true ⟨_, rfl⟩ ⟨rfl, _, rfl⟩
  | float x =>
      have hnan : Number.amount? x = .none ↔ Number.isNaN x = true := amount?_eq_none_iff
      rw [← Option.ne_none_iff_exists', Value.amount?, ne_eq, hnan, Bool.not_eq_true]
      exact (and_iff_left ⟨_, rfl⟩).symm
  | none | str | dateTime | duration | builtin => simp [Value.amount?, Value.numeric?]

theorem parted_iff (hx : a.numeric? = some x) (hy : b.numeric? = some y)
    (hz : c.numeric? = some z) : Parted a b c ↔ x.Parts y z := by
  simp [Parted, hx, hy, hz]

theorem not_parted_of_none
    (h : a.numeric? = .none ∨ b.numeric? = .none ∨ c.numeric? = .none) : ¬ Parted a b c := by
  rintro ⟨x, y, z, hx, hy, hz, -⟩
  simp [hx, hy, hz] at h

theorem blurred_iff (hx : a.numeric? = some x) (hy : b.numeric? = some y) :
    Blurred a b ↔ x.Blurs y := by
  simp [Blurred, hx, hy]

theorem Parted.blurred (h : Parted a b c) : Blurred a b ∨ Blurred b c := by
  obtain ⟨x, y, z, hx, hy, hz, hparts⟩ := h
  rcases hparts.blurs with hblur | hblur
  · exact .inl ⟨x, y, hx, hy, hblur⟩
  · exact .inr ⟨y, z, hy, hz, hblur⟩

/-- A number that is an integer beyond 2⁵³ is no truth value. -/
theorem eq_int_of_numeric {w : Int64} (hw : a.numeric? = some (.int w))
    (hlarge : 2 ^ 53 < w.toInt.natAbs) : a = .int w := by
  cases a with
  | int v =>
      cases hw
      rfl
  | bool b =>
      cases hw
      cases b <;> exact absurd hlarge (by decide)
  | none | float | str | dateTime | duration | builtin => cases hw

theorem Blurred.exists_int (h : Blurred a b) :
    ∃ w : Int64, (a = .int w ∨ b = .int w) ∧ 2 ^ 53 < w.toInt.natAbs := by
  obtain ⟨x, y, hx, hy, hblur⟩ := h
  obtain ⟨w, rfl | rfl, hlarge⟩ := hblur.exists_int
  · exact ⟨w, .inl (eq_int_of_numeric hx hlarge), hlarge⟩
  · exact ⟨w, .inr (eq_int_of_numeric hy hlarge), hlarge⟩

/-! ### Numbers. -/

theorem order_eq (ha : a.isNaN = false) (hb : b.isNaN = false) (hx : a.numeric? = some x)
    (hy : b.numeric? = some y) : a.order b = some (compare (x.place y) (y.place x)) := by
  unfold Value.order
  simp only [hx, hy]
  exact Numeric.order_eq_compare_place (isNaN_numeric hx ▸ ha) (isNaN_numeric hy ▸ hb)

theorem equals_iff_place (ha : a.isNaN = false) (hb : b.isNaN = false)
    (hx : a.numeric? = some x) (hy : b.numeric? = some y) :
    a.equals b = true ↔ x.place y = y.place x := by
  have horder := Numeric.order_eq_compare_place (isNaN_numeric hx ▸ ha) (isNaN_numeric hy ▸ hb)
  rw [Value.equals, hx, hy]
  simp [horder]

theorem comparison_le_iff_place (ha : a.isNaN = false) (hb : b.isNaN = false)
    (hx : a.numeric? = some x) (hy : b.numeric? = some y) :
    comparison .le a b = .ok true ↔ x.place y ≤ y.place x := by
  unfold comparison
  simp only [order_eq ha hb hx hy]
  rw [← compare_le_iff_le]
  simp [CompareOp.holdsFor]

/-! ### Other values. -/

/-- A value that is no number equals itself and nothing else. -/
theorem equals_of_none (h : a.numeric? = .none ∨ b.numeric? = .none) :
    a.equals b = true ↔ a = b := by
  rw [Value.equals]
  rcases h with h | h
  · simp [h]
  · cases a.numeric? <;> simp [h]

/-! ### All values. -/

/-- **Equality is reflexive.** -/
theorem equals_self (ha : a.isNaN = false) : a.equals a = true := by
  cases hx : a.numeric? with
  | none => exact (equals_of_none (.inl hx)).mpr rfl
  | some x => exact (equals_iff_place ha ha hx hx).mpr rfl

/-- **Equality is symmetric.** -/
theorem equals_comm (ha : a.isNaN = false) (hb : b.isNaN = false) : b.equals a = a.equals b := by
  rw [Bool.eq_iff_iff]
  cases hx : a.numeric? with
  | none => rw [equals_of_none (.inr hx), equals_of_none (.inl hx), eq_comm]
  | some x =>
  cases hy : b.numeric? with
  | none => rw [equals_of_none (.inl hy), equals_of_none (.inr hy), eq_comm]
  | some y => rw [equals_iff_place hb ha hy hx, equals_iff_place ha hb hx hy, eq_comm]

/-- **Equality is transitive, unless it leads from an integer to another one.** -/
theorem equals_trans_iff (ha : a.isNaN = false) (hb : b.isNaN = false) (hc : c.isNaN = false)
    (hab : a.equals b = true) (hbc : b.equals c = true) : a.equals c = true ↔ ¬ Parted a b c := by
  -- A value that is no number hands the equality on.
  by_cases hleft : a.numeric? = .none ∨ b.numeric? = .none
  · have heq : a = b := (equals_of_none hleft).mp hab
    exact iff_of_true (heq ▸ hbc) (not_parted_of_none (by tauto))
  by_cases hright : c.numeric? = .none
  · have heq : b = c := (equals_of_none (.inr hright)).mp hbc
    exact iff_of_true (heq ▸ hab) (not_parted_of_none (by tauto))
  rw [not_or] at hleft
  obtain ⟨x, hx⟩ := Option.ne_none_iff_exists'.mp hleft.1
  obtain ⟨y, hy⟩ := Option.ne_none_iff_exists'.mp hleft.2
  obtain ⟨z, hz⟩ := Option.ne_none_iff_exists'.mp hright
  rw [equals_iff_place ha hc hx hz, parted_iff hx hy hz]
  exact Numeric.place_eq_trans (isNaN_numeric hy ▸ hb) ((equals_iff_place ha hb hx hy).mp hab)
    ((equals_iff_place hb hc hy hz).mp hbc)

/-- **Equality and order of values are coherent, up to integers that share their nearest float.**
Equality is reflexive and symmetric; it is transitive, and so is `≤` between numbers, unless a float
in the middle is the nearest one to two different integers.  The order of two numbers reverses with
them, is `=` where they are equal, and is that of what they stand for, unless one is the float
nearest to the other.  None of this happens without an integer beyond 2⁵³. -/
theorem order_coherent (ha : a.isNaN = false) (hb : b.isNaN = false) (hc : c.isNaN = false) :
    a.equals a = true ∧ b.equals a = a.equals b ∧
      (a.equals b = true → b.equals c = true → (a.equals c = true ↔ ¬ Parted a b c)) ∧
      (Parted a b c → Blurred a b ∨ Blurred b c) ∧
      (Blurred a b → ∃ w : Int64, (a = .int w ∨ b = .int w) ∧ 2 ^ 53 < w.toInt.natAbs) ∧
      ∀ p q s, a.amount? = some p → b.amount? = some q → c.amount? = some s →
        (∃ o, a.order b = some o ∧ b.order a = some o.swap ∧ (o = .eq ↔ a.equals b = true) ∧
          (o = compare p q ↔ ¬ Blurred a b)) ∧
        (comparison .le a b = .ok true → comparison .le b c = .ok true →
          (comparison .le a c = .ok true ↔ ¬ (Parted a b c ∧ s < p))) := by
  refine ⟨equals_self ha, equals_comm ha hb, equals_trans_iff ha hb hc, Parted.blurred,
    Blurred.exists_int, ?_⟩
  intro p q s hp hq hs
  obtain ⟨-, x, hx⟩ := exists_amount?_iff.mp ⟨p, hp⟩
  obtain ⟨-, y, hy⟩ := exists_amount?_iff.mp ⟨q, hq⟩
  obtain ⟨-, z, hz⟩ := exists_amount?_iff.mp ⟨s, hs⟩
  have hxn : x.isNaN = false := isNaN_numeric hx ▸ ha
  have hyn : y.isNaN = false := isNaN_numeric hy ▸ hb
  have hzn : z.isNaN = false := isNaN_numeric hz ▸ hc
  rw [← amount?_numeric hx] at hp
  rw [← amount?_numeric hy] at hq
  rw [← amount?_numeric hz] at hs
  constructor
  · refine ⟨_, order_eq ha hb hx hy, ?_, ?_, ?_⟩
    · rw [order_eq hb ha hy hx, Int.compare_swap]
    · rw [equals_iff_place ha hb hx hy, compare_eq_iff_eq]
    · rw [Numeric.compare_amount hxn hyn hp hq, blurred_iff hx hy]
      refine ⟨fun horder hblur => ?_, Numeric.compare_place hxn hyn⟩
      obtain ⟨hplace, hunits⟩ := hblur.place_eq hxn hyn
      rw [compare_eq_iff_eq.mpr hplace] at horder
      exact hunits (compare_eq_iff_eq.mp horder.symm)
  · rw [comparison_le_iff_place ha hb hx hy, comparison_le_iff_place hb hc hy hz,
      comparison_le_iff_place ha hc hx hz, parted_iff hx hy hz, ← compare_lt_iff_lt (a := s),
      Numeric.compare_amount hzn hxn hs hp, compare_lt_iff_lt]
    exact Numeric.place_le_trans hyn

/-- 2⁵³ + 1 equals 2⁵³ as a float, which equals 2⁵³ as an integer, and the integers differ. -/
theorem order_coherent_parted :
    (Value.int 9007199254740993).equals (.float (floatOfInt 9007199254740992)) = true ∧
      (Value.float (floatOfInt 9007199254740992)).equals (.int 9007199254740992) = true ∧
      (Value.int 9007199254740993).equals (.int 9007199254740992) = false ∧
      Parted (.int 9007199254740993) (.float (floatOfInt 9007199254740992))
        (.int 9007199254740992) := by
  have hnan : (Value.float (floatOfInt 9007199254740992)).isNaN = false := isNaN_floatOfInt _
  have hbits : nearestBits 9007199254740993 1 = nearestBits 9007199254740992 1 := by
    decide +kernel
  have hrank : rank (floatOfInt 9007199254740993) = rank (floatOfInt 9007199254740992) := by
    have hodd := rank_floatOfInt_natCast 9007199254740993
    rw [hbits, ← rank_floatOfInt_natCast] at hodd
    exact hodd
  have hab := (equals_iff_place (a := .int 9007199254740993) rfl hnan rfl rfl).mpr hrank
  have hbc := (equals_iff_place (b := .int 9007199254740992) hnan rfl rfl rfl).mpr rfl
  have hac : (Value.int 9007199254740993).equals (.int 9007199254740992) = false := by decide
  obtain ⟨-, -, htrans, -⟩ :=
    order_coherent (a := .int 9007199254740993) (c := .int 9007199254740992) rfl hnan rfl
  refine ⟨hab, hbc, hac, ?_⟩
  by_contra hnot
  rw [(htrans hab hbc).mpr hnot] at hac
  cases hac

end Value

end Fanout
