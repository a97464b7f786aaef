/-
  Fanout.Proofs.Expr.Power
  ────────────────────────
  **Powers of integers.**

  Up to the exponent 2³² − 1 a power of integers is computed by repeated
  squaring, which refuses exactly what does not fit.  Beyond it the power is
  one of floats, whatever the base:

    • `integerPower_eq` — the exact power, narrowed,
    • `eval_pow_iff` — for which exponents a power is exact or refused.
-/
import Fanout.Proofs.Expr.Integer
import Fanout.Proofs.Number.Nearest

namespace Fanout.Expr

open Fanout.Number

/-- **Repeated squaring gives the exact power, narrowed.** -/
theorem integerPower_eq (x : Int64) (n : Nat) :
    integerPower x n = narrowed (.operator .pow) (x.toInt ^ n) := by
  have hone : (1 : Int64).toInt = 1 := rfl
  have hpower : powerFrom? 1 x n = narrow? (x.toInt ^ n) := by
    rw [powerFrom?_eq (.inl (by decide)), hone, one_mul]
  rw [integerPower, narrowed, hpower]
  cases narrow? (x.toInt ^ n) <;> rfl

/-- The float nearest to an integer that is not negative has no sign. -/
theorem isNegative_floatOfInt {n : Int} (h : 0 ≤ n) : isNegative (floatOfInt n) = false := by
  rw [floatOfInt, decide_eq_false (by omega)]
  exact isNegative_ofMagnitudeBits false (nearestBits_le_infinityBits _ Nat.one_pos)

variable {b : Bindings} {l r : Tree} {v w : Value} {m n : Int}

/-- **A power with an exponent that is not negative is exact or refused for the exponents below
2³², and a float for all others.** -/
theorem eval_pow_iff (hl : l.eval b = .ok v) (hr : r.eval b = .ok w)
    (hm : v.integer? = some m) (hn : w.integer? = some n) (hn0 : 0 ≤ n) :
    (ExactOrRefused .pow (m ^ n.toNat) ((Tree.binary .pow l r).eval b) ↔ n < 2 ^ 32) ∧
      (2 ^ 32 ≤ n → (Tree.binary .pow l r).eval b =
        .ok (.float (power (floatOfInt m) (floatOfInt n)))) := by
  obtain ⟨x, y, rfl, rfl, heval⟩ := eval_binary_eq hl hr hm hn
  have hresult : (Tree.binary .pow l r).eval b =
      if 0 ≤ y.toInt ∧ y.toInt ≤ maxExponent then integerPower x y.toInt.toNat
      else floatOperation .pow (floatOfInt x.toInt) (floatOfInt y.toInt) := heval .pow
  have hlarge : 2 ^ 32 ≤ y.toInt → (Tree.binary .pow l r).eval b =
      .ok (.float (power (floatOfInt x.toInt) (floatOfInt y.toInt))) := by
    intro h
    rw [hresult, if_neg (by unfold maxExponent; omega), floatOperation, isNegative_floatOfInt hn0]
    simp
  refine ⟨⟨fun hexact => ?_, fun h => ?_⟩, hlarge⟩
  · -- A float is neither an integer nor an overflow.
    by_contra hge
    rw [hlarge (by omega)] at hexact
    by_cases hfits : -2 ^ 63 ≤ x.toInt ^ y.toInt.toNat ∧ x.toInt ^ y.toInt.toNat ≤ 2 ^ 63 - 1
    · obtain ⟨z, -, hz⟩ := hexact.within hfits.1 hfits.2
      cases hz
    · cases hexact.outside (by omega)
  · rw [hresult, if_pos ⟨hn0, by unfold maxExponent; omega⟩, integerPower_eq]
    exact exactOrRefused_narrowed .pow _

/-- 2⁶³ does not fit, and 2 to the power of 2³² is a float. -/
theorem eval_pow_two :
    ExactOrRefused .pow (2 ^ 63)
        ((Tree.binary .pow (.literal (.int 2)) (.literal (.int 63))).eval .empty) ∧
      (Tree.binary .pow (.literal (.int 2)) (.literal (.int 4294967296))).eval .empty =
        .ok (.float (power (floatOfInt 2) (floatOfInt (2 ^ 32)))) :=
  ⟨(eval_pow_iff (n := 63) rfl rfl rfl rfl (by decide)).1.mpr (by decide),
    (eval_pow_iff (n := 2 ^ 32) rfl rfl rfl rfl (by decide)).2 (by decide)⟩

end Fanout.Expr
