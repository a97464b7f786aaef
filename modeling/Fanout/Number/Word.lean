/-
  Fanout.Number.Word
  ──────────────────
  **Integers of 64 bits.**

  Integer values lie in −2⁶³ … 2⁶³ − 1.  An operation computes its exact
  result and then *narrows* it: a result outside the range is refused,
  never wrapped around.  Remainders exist where the quotient towards zero
  does, and powers where every product of repeated squaring does.
-/

namespace Fanout.Number

/-- The smallest integer value. -/
def minWord : Int := -9223372036854775808

/-- The largest integer value. -/
def maxWord : Int := 9223372036854775807

/-- The number `n` as an integer value, when it lies in the range. -/
def narrow? (n : Int) : Option Int64 :=
  if minWord ≤ n ∧ n ≤ maxWord then some (Int64.ofInt n) else none

/-- Narrowing keeps the number. -/
theorem toInt_of_narrow? {n : Int} {w : Int64} (h : narrow? n = some w) : w.toInt = n := by
  unfold narrow? minWord maxWord at h
  split at h
  · next hr =>
    cases h
    exact Int64.toInt_ofInt_of_le (by omega) (by omega)
  · cases h

/-- Every integer value narrows to itself. -/
theorem narrow?_toInt (w : Int64) : narrow? w.toInt = some w := by
  have h₁ := Int64.le_toInt w
  have h₂ := Int64.toInt_lt w
  unfold narrow? minWord maxWord
  rw [if_pos ⟨by omega, by omega⟩, Int64.ofInt_toInt]

/-- The product of two integers, when it is an integer value. -/
def product? (x y : Int64) : Option Int64 := narrow? (x.toInt * y.toInt)

/-- The quotient of two integers towards zero, when it is an integer value. -/
def quotient? (x y : Int64) : Option Int64 := narrow? (x.toInt.tdiv y.toInt)

/-- What the quotient towards zero leaves, where there is one; it has the sign of `x`. -/
def remainder? (x y : Int64) : Option Int64 := (quotient? x y).map fun _ => x % y

/-- The product `factor · base ^ n` by repeated squaring, from the lowest bit of `n` upwards,
when every product on the way is an integer value.  The last bit needs no square. -/
def powerFrom? (factor base : Int64) (n : Nat) : Option Int64 :=
  if h : n < 2 then if n = 0 then some factor else product? factor base
  else do
    let next ← if n % 2 = 1 then product? factor base else some factor
    let square ← product? base base
    powerFrom? next square (n / 2)
termination_by n
decreasing_by omega

/-- The integer value of a truth value. -/
def ofBool (b : Bool) : Int64 := if b then 1 else 0

end Fanout.Number
