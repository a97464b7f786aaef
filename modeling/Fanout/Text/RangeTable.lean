/-
  Fanout.Text.RangeTable
  ──────────────────────
  **Character classes given by a table of ranges.**
-/

namespace Fanout.Text

/-- A class of characters: pairs of first and last code, both included. -/
abbrev RangeTable := Array (Nat × Nat)

/-- Does the class hold the character? -/
def RangeTable.contains (t : RangeTable) (c : Char) : Bool :=
  t.any fun (first, last) => decide (first ≤ c.toNat) && decide (c.toNat ≤ last)

end Fanout.Text
