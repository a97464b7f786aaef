/-
  Fanout.Proofs.Expr.Integer
  ──────────────────────────
  **Integers are computed exactly or not at all.**

  The operands of an operator are computed first; when both are integers or
  truth values, the operator works on the two words.  Sums, differences and
  products narrow the exact number.  Quotients and remainders go through the
  machine's quotient towards zero, which fits unless −2⁶³ is divided by −1:

    • `ExactOrRefused` — the exact number as a result, or an overflow,
    • `floorQuotient_eq` — the quotient is the exact one rounded down,
      narrowed,
    • `exists_floored` — where the machine has a quotient, quotient and
      remainder obey the law of division,
    • `eval_binary_integers` — all of it for the operators of expressions,
    • `eval_mod_iff` — remainders fit always, and are refused once.
-/
import Fanout.Expr.Meaning
import Fanout.Proofs.Number.Word

namespace Fanout

open Fanout.Number

/-- The number that a truth value or an integer stands for. -/
def Value.integer? : Value → Option Int
  | .bool b => some (if b then 1 else 0)
  | .int w => some w.toInt
  | _ => .none

/-- Arithmetic sees the word of that number. -/
theorem Value.exists_numeric?_eq {x : Value} {m : Int} (h : x.integer? = some m) :
    ∃ u : Int64, u.toInt = m ∧ x.numeric? = some (.int u) := by
  cases x with
  | bool b =>
      cases h
      refine ⟨ofBool b, ?_, rfl⟩
      cases b <;> rfl
  | int w =>
      cases h
      exact ⟨w, rfl, rfl⟩
  | none | float | str | dateTime | duration | builtin => cases h

namespace Expr

/-! ## §1. Exact results. -/

/-- The result of an operator is the integer `n`, or an overflow if `n` does not fit into 64
bits. -/
structure ExactOrRefused (op : BinaryOp) (n : Int) (o : Outcome Value) : Prop where
  /-- A number in the range is the result. -/
  within : -2 ^ 63 ≤ n → n ≤ 2 ^ 63 - 1 → ∃ w : Int64, w.toInt = n ∧ o = .ok (.int w)
  /-- Any other number is refused. -/
  outside : n < -2 ^ 63 ∨ 2 ^ 63 - 1 < n → o = .error (.overflow (.operator op))

theorem exactOrRefused_narrowed (op : BinaryOp) (n : Int) :
    ExactOrRefused op n (narrowed (.operator op) n) := by
  unfold narrowed
  cases h : narrow? n with
  | none =>
      have hout := narrow?_eq_none_iff.mp h
      unfold minWord maxWord at hout
      exact ⟨fun _ _ => by omega, fun _ => rfl⟩
  | some w =>
      have hw := toInt_of_narrow? h
      have hlow := Int64.le_toInt w
      have hhigh := Int64.toInt_lt w
      exact ⟨fun _ _ => ⟨w, hw, rfl⟩, fun _ => by omega⟩

theorem narrowed_toInt (operation : Overflowing) (w : Int64) :
    narrowed operation w.toInt = .ok (.int w) := by
  rw [narrowed, narrow?_toInt]

/-! ## §2. Quotients and remainders. -/

variable {x y : Int64}

theorem signsDiffer_iff : signsDiffer x y = true ↔ ¬ (x.toInt < 0 ↔ y.toInt < 0) := by
  have hx : x < 0 ↔ x.toInt < 0 := Int64.lt_iff_toInt_lt
  have hy : y < 0 ↔ y.toInt < 0 := Int64.lt_iff_toInt_lt
  unfold signsDiffer
  rw [bne_iff_ne, ne_eq, decide_eq_decide, hx, hy]

/-- What the machine leaves has the sign of the dividend. -/
theorem signsDiffer_mod (hy : y ≠ 0) (hrem : x % y ≠ 0) :
    signsDiffer (x % y) y = signsDiffer x y := by
  have htmod : (x % y).toInt = x.toInt.tmod y.toInt := Int64.toInt_mod x y
  have hne : (x % y).toInt ≠ 0 := toInt_ne_zero hrem
  obtain ⟨-, hpos, hneg⟩ := tmod_bounds x.toInt (toInt_ne_zero hy)
  rw [Bool.eq_iff_iff, signsDiffer_iff, signsDiffer_iff]
  omega

/-- **Neither correction leaves the range.**  A quotient that is corrected is at most half as large
as the dividend, and a remainder moves towards the other side of 0. -/
theorem toInt_corrected {q : Int64} (hy : y ≠ 0) (hq : quotient? x y = some q) (hrem : x % y ≠ 0)
    (hsign : ¬ (x.toInt < 0 ↔ y.toInt < 0)) :
    (q - 1).toInt = x.toInt.tdiv y.toInt - 1 ∧
      (x % y + y).toInt = x.toInt.tmod y.toInt + y.toInt := by
  have hquot : q.toInt = x.toInt.tdiv y.toInt := quotient?_eq_some hq
  have htmod : (x % y).toInt = x.toInt.tmod y.toInt := Int64.toInt_mod x y
  have hne : (x % y).toInt ≠ 0 := toInt_ne_zero hrem
  obtain ⟨hsize, hpos, hneg⟩ := tmod_bounds x.toInt (toInt_ne_zero hy)
  have hhalf := natAbs_tdiv_le x.toInt (show 2 ≤ y.toInt.natAbs by omega)
  have hlow := minWord_le_toInt x
  have hhigh := toInt_le_maxWord x
  have hylow := minWord_le_toInt y
  have hyhigh := toInt_le_maxWord y
  have hone : (1 : Int64).toInt = 1 := rfl
  rw [← hquot] at hhalf
  rw [← htmod] at hsize hpos hneg
  unfold minWord maxWord at *
  constructor
  · rw [← hquot, ← hone]
    apply toInt_sub_of_fits
    · unfold minWord
      omega
    · unfold maxWord
      omega
  · rw [← htmod]
    apply toInt_add_of_fits
    · unfold minWord
      omega
    · unfold maxWord
      omega

/-- **Where the machine has a quotient, there are a quotient and a remainder, and they obey the law
of division**: both are corrected if the machine leaves a remainder and the signs differ. -/
theorem exists_floored {q : Int64} (hy : y ≠ 0) (hq : quotient? x y = some q) :
    ∃ p r : Int64, floorQuotient x y = .ok (.int p) ∧ floorRemainder x y = .ok (.int r) ∧
      IsFloorDivision x.toInt y.toInt p.toInt r.toInt := by
  have hquot : q.toInt = x.toInt.tdiv y.toInt := quotient?_eq_some hq
  have htmod : (x % y).toInt = x.toInt.tmod y.toInt := Int64.toInt_mod x y
  have hn : y.toInt ≠ 0 := toInt_ne_zero hy
  have hmod : remainder? x y = some (x % y) := by rw [remainder?, hq, Option.map_some]
  unfold floorQuotient floorRemainder
  rw [if_neg hy, if_neg hy, hq, hmod]
  refine ⟨_, _, rfl, rfl, ?_⟩
  rcases eq_or_ne (x % y) 0 with hzero | hrem
  · -- Nothing is left.
    rw [if_neg (fun h => h.1 hzero), if_neg (fun h => h.1 hzero), hquot, htmod]
    refine isFloorDivision_tdiv hn (.inl ?_)
    rw [← htmod, hzero, Int64.toInt_zero]
  rw [signsDiffer_mod hy hrem]
  by_cases hsign : x.toInt < 0 ↔ y.toInt < 0
  · have hsame : ¬ signsDiffer x y = true := fun h => signsDiffer_iff.mp h hsign
    rw [if_neg (fun h => hsame h.2), if_neg (fun h => hsame h.2), hquot, htmod]
    exact isFloorDivision_tdiv hn (.inr hsign)
  · obtain ⟨hp, hr⟩ := toInt_corrected hy hq hrem hsign
    have hdiffer : signsDiffer x y = true := signsDiffer_iff.mpr hsign
    rw [if_pos ⟨hrem, hdiffer⟩, if_pos ⟨hrem, hdiffer⟩, hp, hr]
    exact isFloorDivision_tdiv_sub_one hn (htmod ▸ toInt_ne_zero hrem) hsign

/-- Without one, both are refused. -/
theorem floored_refused (hy : y ≠ 0) (hq : quotient? x y = none) :
    floorQuotient x y = .error (.overflow (.operator .floorDiv)) ∧
      floorRemainder x y = .error (.overflow (.operator .mod)) := by
  have hmod : remainder? x y = none := by rw [remainder?, hq, Option.map_none]
  unfold floorQuotient floorRemainder
  rw [if_neg hy, if_neg hy, hq, hmod]
  exact ⟨rfl, rfl⟩

/-- **The quotient is the exact one, rounded down and narrowed.** -/
theorem floorQuotient_eq (hy : y ≠ 0) :
    floorQuotient x y = narrowed (.operator .floorDiv) ⌊(x.toInt : ℚ) / y.toInt⌋ := by
  cases hq : quotient? x y with
  | none =>
      obtain ⟨hm, hn⟩ := (quotient?_eq_none_iff hy).mp hq
      have hfloor : ⌊((minWord : Int) : ℚ) / ((-1 : Int) : ℚ)⌋ = -minWord := by
        rw [Int.cast_neg, Int.cast_one, div_neg, div_one, ← Int.cast_neg, Int.floor_intCast]
      rw [(floored_refused hy hq).1, hm, hn, hfloor]
      rfl
  | some q =>
      obtain ⟨p, r, hp, -, h⟩ := exists_floored hy hq
      rw [h.floor_eq (toInt_ne_zero hy), narrowed_toInt, hp]

/-- Only a division by 0 is a division by 0. -/
theorem floored_eq_divisionByZero_iff :
    (floorQuotient x y = .error .divisionByZero ↔ y = 0) ∧
      (floorRemainder x y = .error .divisionByZero ↔ y = 0) := by
  by_cases hy : y = 0
  · simp [floorQuotient, floorRemainder, hy]
  cases hq : quotient? x y with
  | none =>
      obtain ⟨hp, hr⟩ := floored_refused hy hq
      simp [hp, hr, hy]
  | some q =>
      obtain ⟨p, r, hp, hr, -⟩ := exists_floored hy hq
      simp [hp, hr, hy]

/-! ## §3. Operators of expressions. -/

section Operators

variable {b : Bindings} {l r : Tree} {v w : Value} {m n : Int}

/-- **An operator between two integers works on their words.** -/
theorem eval_binary_eq (hl : l.eval b = .ok v) (hr : r.eval b = .ok w)
    (hm : v.integer? = some m) (hn : w.integer? = some n) :
    ∃ x y : Int64, x.toInt = m ∧ y.toInt = n ∧
      ∀ op, (Tree.binary op l r).eval b = integerOperation op x y := by
  obtain ⟨x, hx, hv⟩ := Value.exists_numeric?_eq hm
  obtain ⟨y, hy, hw⟩ := Value.exists_numeric?_eq hn
  refine ⟨x, y, hx, hy, fun op => ?_⟩
  rw [Tree.eval, hl, hr]
  show binaryOperation op v w = _
  rw [binaryOperation, hv, hw]
  rfl

/-- What the operators `+`, `-`, `*`, `//` and `%` give for the integers `m` and `n`. -/
structure IntegerLaws (m n : Int) (result : BinaryOp → Outcome Value) : Prop where
  add : ExactOrRefused .add (m + n) (result .add)
  sub : ExactOrRefused .sub (m - n) (result .sub)
  mul : ExactOrRefused .mul (m * n) (result .mul)
  /-- The exact quotient, rounded down. -/
  floorDiv : n ≠ 0 → ExactOrRefused .floorDiv ⌊(m : ℚ) / n⌋ (result .floorDiv)
  /-- There is no quotient by 0, and no other is refused for this reason. -/
  floorDiv_zero : result .floorDiv = .error .divisionByZero ↔ n = 0
  mod_zero : result .mod = .error .divisionByZero ↔ n = 0
  /-- Quotient and remainder make up the dividend. -/
  division : ∀ v w, result .floorDiv = .ok v → result .mod = .ok w →
    ∃ q r : Int64, v = .int q ∧ w = .int r ∧ IsFloorDivision m n q.toInt r.toInt

/-- **Integers are computed exactly or refused, and quotients and remainders obey the law of
division.** -/
theorem eval_binary_integers (hl : l.eval b = .ok v) (hr : r.eval b = .ok w)
    (hm : v.integer? = some m) (hn : w.integer? = some n) :
    IntegerLaws m n fun op => (Tree.binary op l r).eval b := by
  obtain ⟨x, y, rfl, rfl, heval⟩ := eval_binary_eq hl hr hm hn
  have hzero : y = 0 ↔ y.toInt = 0 := Int64.toInt_inj.symm
  simp only [heval]
  constructor
  case add => exact exactOrRefused_narrowed .add _
  case sub => exact exactOrRefused_narrowed .sub _
  case mul => exact exactOrRefused_narrowed .mul _
  case floorDiv =>
    intro hn0
    show ExactOrRefused _ _ (floorQuotient x y)
    rw [floorQuotient_eq (fun h => hn0 (hzero.mp h))]
    exact exactOrRefused_narrowed .floorDiv _
  case floorDiv_zero => exact floored_eq_divisionByZero_iff.1.trans hzero
  case mod_zero => exact floored_eq_divisionByZero_iff.2.trans hzero
  case division =>
    intro v w (hv : floorQuotient x y = .ok v) (hw : floorRemainder x y = .ok w)
    have hy : y ≠ 0 := by
      rintro rfl
      cases hv
    cases hq : quotient? x y with
    | none =>
        rw [(floored_refused hy hq).1] at hv
        cases hv
    | some q =>
        obtain ⟨p, r, hp, hr, h⟩ := exists_floored hy hq
        rw [hp] at hv
        rw [hr] at hw
        cases hv
        cases hw
        exact ⟨p, r, rfl, rfl, h⟩

/-- A truth value counts as 0 or 1, and −2 divides 1 with the quotient −1. -/
theorem integerLaws_true_neg_two :
    IntegerLaws 1 (-2) fun op =>
      (Tree.binary op (.literal (.bool true)) (.literal (.int (-2)))).eval .empty :=
  eval_binary_integers rfl rfl rfl rfl

/-- **A remainder always fits, and it is the result, unless −2⁶³ is divided by −1**: there the
remainder is 0, and what is refused is the quotient. -/
theorem eval_mod_iff (hl : l.eval b = .ok v) (hr : r.eval b = .ok w)
    (hm : v.integer? = some m) (hn : w.integer? = some n) (hn0 : n ≠ 0) :
    ∃ k, (∀ j, IsRemainder m n j ↔ j = k) ∧ k = m - n * ⌊(m : ℚ) / n⌋ ∧
      -2 ^ 63 ≤ k ∧ k ≤ 2 ^ 63 - 1 ∧
      ((∃ z : Int64, z.toInt = k ∧ (Tree.binary .mod l r).eval b = .ok (.int z)) ↔
        ¬ (m = -2 ^ 63 ∧ n = -1)) ∧
      (m = -2 ^ 63 → n = -1 →
        (Tree.binary .mod l r).eval b = .error (.overflow (.operator .mod))) := by
  obtain ⟨x, y, rfl, rfl, heval⟩ := eval_binary_eq hl hr hm hn
  have hy : y ≠ 0 := fun h => hn0 (Int64.toInt_inj.mpr h)
  have hresult : (Tree.binary .mod l r).eval b = floorRemainder x y := heval .mod
  have hnone := quotient?_eq_none_iff (x := x) hy
  rw [hresult]
  refine ⟨_, fun j => isRemainder_iff hn0, rfl, ?_⟩
  generalize hk : x.toInt - y.toInt * ⌊(x.toInt : ℚ) / y.toInt⌋ = k
  have hrem : IsRemainder x.toInt y.toInt k := (isRemainder_iff hn0).mpr hk.symm
  have hsize := hrem.natAbs_lt
  have hsign := hrem.sign
  have hlow := minWord_le_toInt y
  have hhigh := toInt_le_maxWord y
  unfold minWord maxWord at *
  refine ⟨by omega, by omega, ?_⟩
  cases hq : quotient? x y with
  | none =>
      have hboth := hnone.mp hq
      rw [(floored_refused hy hq).2]
      refine ⟨iff_of_false ?_ (not_not_intro hboth), fun _ _ => rfl⟩
      rintro ⟨z, -, hz⟩
      cases hz
  | some q =>
      have hnot : ¬ (x.toInt = -2 ^ 63 ∧ y.toInt = -1) := by
        intro h
        rw [hnone.mpr h] at hq
        cases hq
      obtain ⟨p, z, -, hz, hdiv⟩ := exists_floored hy hq
      rw [hz]
      refine ⟨iff_of_true ⟨z, ?_, rfl⟩ hnot, fun h₁ h₂ => absurd ⟨h₁, h₂⟩ hnot⟩
      rw [← hk]
      exact hdiv.remainder_eq hn0

/-- The smallest integer as a difference. -/
def smallest : Tree :=
  .binary .sub (.literal (.int (-9223372036854775807))) (.literal (.int 1))

/-- By −1 it leaves a remainder that fits, and the remainder is refused. -/
theorem eval_mod_smallest :
    ∃ k, IsRemainder (-2 ^ 63) (-1) k ∧ -2 ^ 63 ≤ k ∧ k ≤ 2 ^ 63 - 1 ∧
      (Tree.binary .mod smallest (.literal (.int (-1)))).eval .empty =
        .error (.overflow (.operator .mod)) := by
  obtain ⟨k, hk, -, hlow, hhigh, -, hrefused⟩ :=
    eval_mod_iff (l := smallest) (r := .literal (.int (-1))) (b := .empty)
      (v := .int Int64.minValue) (w := .int (-1)) (m := -2 ^ 63) (n := -1) rfl rfl rfl rfl
      (by decide)
  exact ⟨k, (hk k).mpr rfl, hlow, hhigh, hrefused rfl rfl⟩

end Operators

end Expr

end Fanout
