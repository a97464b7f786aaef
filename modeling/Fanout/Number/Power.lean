/-
  Fanout.Number.Power
  ───────────────────
  **Powers of two and of ten.**

  Floats are scaled by powers of two, decimals by powers of ten.
-/

namespace Fanout.Number

/-- The power of two with exponent `n`. -/
def twoTo (n : Nat) : Nat := Nat.pow 2 n

/-- The power of ten with exponent `n`. -/
def tenTo (n : Nat) : Nat := Nat.pow 10 n

/-- No power of two is 0. -/
theorem twoTo_pos (n : Nat) : 0 < twoTo n := Nat.pow_pos (by decide)

/-- No power of ten is 0. -/
theorem tenTo_pos (n : Nat) : 0 < tenTo n := Nat.pow_pos (by decide)

end Fanout.Number
