/-
  Fanout.Number.Numeral
  ─────────────────────
  **Numbers as text.**

  Reading: an integer is an optional sign and decimal digits; a float is an
  optional sign and either one of the words for infinity and for no number,
  or digits with an optional point and an optional exponent.  A decimal is
  read as the float nearest to it.

  Printing: a float is shown with the fewest digits that read back as it.
  `plainText` never uses an exponent; `floatText` does for numbers below
  10⁻⁴ and from 10¹⁶ on, and otherwise always shows a decimal point, so
  that the text of a float never looks like an integer.
-/
import Fanout.Number.Word
import Fanout.Number.Shortest

namespace Fanout.Number

/-! ## §1. Digits. -/

/-- The number that decimal digits stand for. -/
def digitsValue (cs : List Char) : Nat := Nat.ofDigitChars 10 cs 0

/-- The decimal digits of a number, without leading zeros. -/
def digitsOf (n : Nat) : List Char := Nat.toDigits 10 n

/-- The decimal text of an integer. -/
def intDigits (n : Int) : List Char :=
  if n < 0 then '-' :: digitsOf n.natAbs else digitsOf n.natAbs

/-- The decimal text of an integer, as a string. -/
def intText (n : Int) : String := String.ofList (intDigits n)

/-- The number `n` in decimal, filled up to `width` places with zeros. -/
def padZeros (width n : Nat) : List Char :=
  let ds := digitsOf n
  List.replicate (width - ds.length) '0' ++ ds

/-- Splits off a sign: `true` for minus. -/
def splitSign : List Char → Bool × List Char
  | '-' :: cs => (true, cs)
  | '+' :: cs => (false, cs)
  | cs => (false, cs)

/-! ## §2. Reading integers. -/

/-- Reads a whole text as an integer value: a sign or none, then digits. -/
def readWord? (cs : List Char) : Option Int64 :=
  let (negative, ds) := splitSign cs
  if ds.isEmpty || !ds.all Char.isDigit then none
  else narrow? (if negative then -(digitsValue ds : Int) else digitsValue ds)

/-! ## §3. Reading floats. -/

/-- The float nearest to `± digits · 10 ^ exponent`.  Far outside the range of floats the
answer does not depend on the exact value. -/
def floatOfDecimal (negative : Bool) (digits : Nat) (exponent : Int) : Float :=
  let size : Int := (digits.log2 : Int) * 30103 / 100000 + exponent
  if digits = 0 then zero negative
  else if 400 < size then infinity negative
  else if size < -400 then zero negative
  else nearest negative (digits * tenTo exponent.toNat) (tenTo (-exponent).toNat)

/-- Reads an exponent mark with its digits; `some 0` when there is none at all. -/
def readExponent? : List Char → Option Int
  | [] => some 0
  | c :: cs =>
    if c = 'e' ∨ c = 'E' then
      let (negative, ds) := splitSign cs
      if ds.isEmpty || !ds.all Char.isDigit then none
      else some (if negative then -(digitsValue ds : Int) else digitsValue ds)
    else none

/-- Reads digits with an optional point and an optional exponent. -/
def readDecimal? (negative : Bool) (cs : List Char) : Option Float :=
  let whole := cs.takeWhile Char.isDigit
  let rest := cs.dropWhile Char.isDigit
  let (fraction, rest) :=
    match rest with
    | '.' :: r => (r.takeWhile Char.isDigit, r.dropWhile Char.isDigit)
    | r => ([], r)
  if whole.isEmpty && fraction.isEmpty then none
  else
    (readExponent? rest).map fun e =>
      floatOfDecimal negative (digitsValue (whole ++ fraction)) (e - (fraction.length : Int))

/-- Reads a whole text as a float. -/
def readFloat? (cs : List Char) : Option Float :=
  let (negative, body) := splitSign cs
  let word := String.ofList (body.map Char.toLower)
  if word = "nan" then some notANumber
  else if word = "inf" ∨ word = "infinity" then some (infinity negative)
  else readDecimal? negative body

/-! ## §4. Printing floats. -/

/-- The digits of a decimal written without an exponent. -/
def Decimal.positional (d : Decimal) : List Char :=
  let ds := digitsOf d.digits
  if 0 ≤ d.exponent then ds ++ List.replicate d.exponent.toNat '0'
  else
    let places := (-d.exponent).toNat
    let padded := List.replicate (places + 1 - ds.length) '0' ++ ds
    let whole := padded.length - places
    padded.take whole ++ '.' :: padded.drop whole

/-- The digits of a decimal with one digit before the point, and the power of ten. -/
def Decimal.scientific (d : Decimal) : List Char × Int :=
  let ds := digitsOf d.digits
  let mantissa :=
    match ds with
    | first :: second :: rest => first :: '.' :: second :: rest
    | short => short
  (mantissa, d.exponent + (ds.length : Int) - 1)

/-- The sign in front of a number. -/
def signText (negative : Bool) : List Char := if negative then ['-'] else []

/-- The text of a float without exponent; whole numbers show no point. -/
def plainText (x : Float) : String :=
  match read x with
  | .nan => "NaN"
  | .infinite negative => String.ofList (signText negative ++ ['i', 'n', 'f'])
  | .finite negative mantissa exponent =>
    if mantissa = 0 then String.ofList (signText negative ++ ['0'])
    else String.ofList (signText negative ++ (shortest mantissa exponent).positional)

/-- The exponent of a float's text: a sign and at least two digits. -/
def exponentText (e : Int) : List Char :=
  (if e < 0 then '-' else '+') :: padZeros 2 e.natAbs

/-- Is the number so small or so large that its text has an exponent?  Numbers from
10⁻⁴ up to, but not including, 10¹⁶ have none. -/
def needsExponent (x : Float) : Bool :=
  let m := rank (ofMagnitudeBits false (magnitudeBits x))
  let least := rank (nearest false 1 10000)
  let limit := rank (nearest false (tenTo 16) 1)
  m != 0 && !(decide (least ≤ m) && decide (m < limit))

/-- The text of a float: the fewest digits that read back, a point or an exponent always. -/
def floatText (x : Float) : String :=
  match read x with
  | .nan => "nan"
  | .infinite negative => String.ofList (signText negative ++ ['i', 'n', 'f'])
  | .finite negative mantissa exponent =>
    let body :=
      if mantissa = 0 then ['0', '.', '0']
      else
        let d := shortest mantissa exponent
        if needsExponent x then
          let (digits, e) := d.scientific
          digits ++ 'e' :: exponentText e
        else
          let text := d.positional
          if text.contains '.' then text else text ++ ['.', '0']
    String.ofList (signText negative ++ body)

end Fanout.Number
