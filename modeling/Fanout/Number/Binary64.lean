/-
  Fanout.Number.Binary64
  ──────────────────────
  **Floats of 64 bits as exact numbers.**

  A finite float is an integer times a power of two.  `Reading` takes a
  float apart, `nearest` goes the other way: it rounds any quotient of
  natural numbers to the float closest to it, a tie to the one with an even
  last bit.  Everything that has to be exact (order, conversion of
  integers, rounding to whole numbers, remainders) is computed on these
  parts in integers.
-/
import Fanout.Number.Power

namespace Fanout.Number

/-! ## §1. Taking a float apart. -/

/-- What a float stands for. -/
inductive Reading where
  /-- No number. -/
  | nan
  /-- Plus or minus infinity. -/
  | infinite (negative : Bool)
  /-- The number `± mantissa · 2 ^ exponent`. -/
  | finite (negative : Bool) (mantissa : Nat) (exponent : Int)
  deriving DecidableEq, Repr

/-- The bits of a float as a natural number. -/
def bits (x : Float) : Nat := x.toBits.toNat

/-- Is the sign bit set? -/
def isNegative (x : Float) : Bool := decide (twoTo 63 ≤ bits x)

/-- The bits below the sign; they grow with the size of the number. -/
def magnitudeBits (x : Float) : Nat := bits x % twoTo 63

/-- The bits of infinity, without the sign. -/
def infinityBits : Nat := 2047 * twoTo 52

/-- The number that a float stands for. -/
def read (x : Float) : Reading :=
  let negative := isNegative x
  let exponent : Nat := magnitudeBits x / twoTo 52
  let fraction : Nat := magnitudeBits x % twoTo 52
  if exponent = 2047 then (if fraction = 0 then .infinite negative else .nan)
  else if exponent = 0 then .finite negative fraction (-1074)
  else .finite negative (twoTo 52 + fraction) ((exponent : Int) - 1075)

/-! ## §2. The float nearest to a quotient. -/

/-- The float with the given sign and the given bits below it. -/
def ofMagnitudeBits (negative : Bool) (magnitude : Nat) : Float :=
  Float.ofBits (UInt64.ofNat (magnitude + if negative then twoTo 63 else 0))

/-- The whole number nearest to `num / den`, a tie to the even one. -/
def roundQuotient (num den : Nat) : Nat :=
  let q := num / den
  let r := num % den
  if 2 * r < den ∨ (2 * r = den ∧ q % 2 = 0) then q else q + 1

/-- The number `num / den · 2 ^ (- exponent)` as a quotient. -/
def scaled (num den : Nat) (exponent : Int) : Nat × Nat :=
  (num * twoTo (-exponent).toNat, den * twoTo exponent.toNat)

/-- The exponent with which `num / den` has a mantissa of 53 bits, or the least exponent
there is. -/
def exponentFor (num den : Nat) : Int :=
  let guess : Int := (num.log2 : Int) - (den.log2 : Int) - 52
  let (n, d) := scaled num den guess
  max (-1074) (if n / d < twoTo 52 then guess - 1 else guess)

/-- The bits, without the sign, of the float nearest to `num / den`; a mantissa rounded up
to 2⁵³ carries into the exponent by itself. -/
def nearestBits (num den : Nat) : Nat :=
  if num = 0 then 0
  else
    let exponent := exponentFor num den
    let (n, d) := scaled num den exponent
    let mantissa := roundQuotient n d
    let magnitude := (exponent + 1074).toNat * twoTo 52 + mantissa
    min magnitude infinityBits

/-- The float nearest to `± num / den`. -/
def nearest (negative : Bool) (num den : Nat) : Float :=
  ofMagnitudeBits negative (nearestBits num den)

/-- The float nearest to `± mantissa · 2 ^ exponent`. -/
def compose (negative : Bool) (mantissa : Nat) (exponent : Int) : Float :=
  nearest negative (mantissa * twoTo exponent.toNat) (twoTo (-exponent).toNat)

/-- The float nearest to an integer. -/
def floatOfInt (n : Int) : Float := nearest (decide (n < 0)) n.natAbs 1

/-- The float nearest to an integer value. -/
def floatOfWord (w : Int64) : Float := floatOfInt w.toInt

/-- The result of an operation that has none. -/
def notANumber : Float := ofMagnitudeBits false (2047 * twoTo 52 + twoTo 51)

/-- Infinity of the given sign. -/
def infinity (negative : Bool) : Float := ofMagnitudeBits negative infinityBits

/-- Zero of the given sign. -/
def zero (negative : Bool) : Float := ofMagnitudeBits negative 0

/-! ## §3. Order. -/

/-- Is `x` no number? -/
def isNaN (x : Float) : Bool := decide (infinityBits < magnitudeBits x)

/-- The place of a number in the order of the floats; the two zeros share one. -/
def rank (x : Float) : Int :=
  if isNegative x then -(magnitudeBits x : Int) else (magnitudeBits x : Int)

/-- The order of two floats; what is no number has none. -/
def order (x y : Float) : Option Ordering :=
  if isNaN x || isNaN y then none else some (compare (rank x) (rank y))

/-- Is `x` one of the two zeros? -/
def isZero (x : Float) : Bool := magnitudeBits x == 0

/-! ## §4. Whole numbers. -/

/-- Replaces a number by the whole number of the same sign whose size `f` chooses, given
the sign and the size as a quotient. -/
def mapWhole (f : Bool → Nat → Nat → Nat) (x : Float) : Float :=
  match read x with
  | .finite negative mantissa exponent =>
    if 0 ≤ exponent then x
    else nearest negative (f negative mantissa (twoTo (-exponent).toNat)) 1
  | _ => x

/-- The largest whole number not above `x`. -/
def floor (x : Float) : Float :=
  mapWhole (fun negative num den =>
    if negative && num % den != 0 then num / den + 1 else num / den) x

/-- The number `x` without its fraction. -/
def truncate (x : Float) : Float := mapWhole (fun _ num den => num / den) x

/-- The whole number nearest to `x`, a tie to the even one. -/
def roundEven (x : Float) : Float := mapWhole (fun _ num den => roundQuotient num den) x

/-- The whole part of a finite float. -/
def wholePart? (x : Float) : Option Int :=
  match read x with
  | .finite negative mantissa exponent =>
    let size : Nat := mantissa * twoTo exponent.toNat / twoTo (-exponent).toNat
    some (if negative then -(size : Int) else size)
  | _ => none

/-! ## §5. Remainders and powers. -/

/-- The exact remainder of `x` by `y`; it has the sign of `x`. -/
def remainder (x y : Float) : Float :=
  match read x, read y with
  | .finite negative m₁ e₁, .finite _ m₂ e₂ =>
    if m₂ = 0 then notANumber
    else
      let e := min e₁ e₂
      let a := m₁ * twoTo (e₁ - e).toNat
      let b := m₂ * twoTo (e₂ - e).toNat
      compose negative (a % b) e
  | .finite _ _ _, .infinite _ => x
  | _, _ => notANumber

/-- The product `factor · base ^ n` by repeated squaring, from the lowest bit of `n` upwards. -/
def mulPow (factor base : Float) (n : Nat) : Float :=
  if h : n = 0 then factor
  else mulPow (if n % 2 = 1 then factor * base else factor) (base * base) (n / 2)
termination_by n
decreasing_by omega

/-- A whole power; a negative one is the inverse of the positive one. -/
def wholePower (base : Float) (n : Int) : Float :=
  let p := mulPow 1.0 base n.natAbs
  if n < 0 then 1.0 / p else p

/-- A power with a float exponent. -/
def power (x y : Float) : Float := Float.pow x y

end Fanout.Number
