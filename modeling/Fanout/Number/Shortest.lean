/-
  Fanout.Number.Shortest
  ──────────────────────
  **The fewest decimal digits that read back as the same float.**

  The reals that round to a given float form an interval around it, whose
  ends belong to it exactly when the mantissa is even.  On the grid of the
  multiples of a power of ten, a point of the interval exists exactly when
  one of the two neighbours of the float on that grid is such a point.  The
  search goes from coarse grids to fine ones and stops at the first grid
  with a point; of two points it takes the nearer, of two equally near ones
  the larger.
-/
import Fanout.Number.Binary64

namespace Fanout.Number

/-- The decimal number `digits · 10 ^ exponent`. -/
structure Decimal where
  /-- All digits, as one number. -/
  digits : Nat
  /-- The power of ten of the last digit. -/
  exponent : Int
  deriving DecidableEq, Repr

/-! ## §1. The interval of a float. -/

/-- Three numbers over one denominator: a float in the middle of the interval of the reals
that round to it. -/
structure Neighbourhood where
  /-- The lower end. -/
  low : Nat
  /-- The float itself. -/
  mid : Nat
  /-- The upper end. -/
  high : Nat
  /-- The common denominator. -/
  den : Nat
  /-- Do the ends round to the float as well? -/
  closed : Bool

/-- The neighbourhood of `mantissa · 2 ^ exponent`.  The gap below a power of two is half
as wide as the gap above it, unless the exponent is the least there is. -/
def Neighbourhood.of (mantissa : Nat) (exponent : Int) : Neighbourhood :=
  let up := twoTo (exponent - 2).toNat
  let narrow := mantissa = twoTo 52 ∧ -1074 < exponent
  { low := (4 * mantissa - if narrow then 1 else 2) * up
    mid := 4 * mantissa * up
    high := (4 * mantissa + 2) * up
    den := twoTo (2 - exponent).toNat
    closed := mantissa % 2 = 0 }

/-! ## §2. The search. -/

/-- The point that the grid of the multiples of `10 ^ k` contributes, if any. -/
def Neighbourhood.gridPoint? (n : Neighbourhood) (k : Int) : Option Nat :=
  let unit := n.den * tenTo k.toNat
  let scale := tenTo (-k).toNat
  let below := n.mid * scale / unit
  let above := below + 1
  let belowFits :=
    if n.closed then decide (n.low * scale ≤ below * unit)
    else decide (n.low * scale < below * unit)
  let aboveFits :=
    if n.closed then decide (above * unit ≤ n.high * scale)
    else decide (above * unit < n.high * scale)
  let aboveNearer := decide (above * unit - n.mid * scale ≤ n.mid * scale - below * unit)
  match belowFits, aboveFits with
  | true, true => some (if aboveNearer then above else below)
  | true, false => some below
  | false, true => some above
  | false, false => none

/-- The point of the coarsest grid that has one, trying `fuel` grids from `10 ^ k` on. -/
def Neighbourhood.search (n : Neighbourhood) : Nat → Int → Decimal
  | 0, k => ⟨n.mid / n.den, k⟩
  | fuel + 1, k =>
    match n.gridPoint? k with
    | some d => ⟨d, k⟩
    | none => n.search fuel (k - 1)

/-- Moves the zeros at the end of the digits into the exponent. -/
def stripZeros (fuel digits : Nat) (exponent : Int) : Decimal :=
  match fuel with
  | 0 => ⟨digits, exponent⟩
  | fuel + 1 =>
    if digits ≠ 0 ∧ digits % 10 = 0 then stripZeros fuel (digits / 10) (exponent + 1)
    else ⟨digits, exponent⟩

/-- A power of ten above `mantissa · 2 ^ exponent`, and within two places of it. -/
def startExponent (mantissa : Nat) (exponent : Int) : Int :=
  ((mantissa.log2 : Int) + exponent + 1) * 30103 / 100000 + 1

/-- The shortest decimal that reads back as the positive float
`mantissa · 2 ^ exponent`.  Seventeen digits always suffice. -/
def shortest (mantissa : Nat) (exponent : Int) : Decimal :=
  let found := (Neighbourhood.of mantissa exponent).search 24 (startExponent mantissa exponent)
  stripZeros 20 found.digits found.exponent

end Fanout.Number
