/-
  Fanout.Document.Scalar
  ──────────────────────
  **Truth values, numbers, dates and times of a TOML document.**
-/
import Fanout.Calendar.Date
import Fanout.Text.Split
import Fanout.Document.Scan
import Fanout.Document.Table

namespace Fanout.Document

open Fanout.Number Fanout.Calendar Fanout.Text

/-! ## §1. Numbers. -/

/-- The digits of a number, without the underscores that stand between two of them. -/
def digitGroups? (isDigit : Char → Bool) (cs : List Char) : Option (List Char) :=
  let groups := splitAt '_' cs
  if groups.all fun g => !g.isEmpty && g.all isDigit then some groups.flatten else none

/-- The digits of a whole number, which begin with a zero only if it is the only one. -/
def wholeDigits? (cs : List Char) : Option (List Char) :=
  match digitGroups? Char.isDigit cs with
  | some ('0' :: _ :: _) => none
  | ds => ds

/-- The letter of a base and the base. -/
def base? : Char → Option Nat
  | 'x' => some 16
  | 'o' => some 8
  | 'b' => some 2
  | _ => none

/-- Is the character a digit in a base? -/
def isDigitIn (base : Nat) (c : Char) : Bool := (hexValue? c).any fun n => decide (n < base)

/-- The value of digits in a base. -/
def valueIn (base : Nat) (ds : List Char) : Nat :=
  ds.foldl (fun n c => n * base + (hexValue? c).getD 0) 0

/-- The integers that a document may hold. -/
def isHeld (n : Int) : Bool := decide (-(twoTo 127 : Int) ≤ n) && decide (n < (twoTo 128 : Int))

/-- An integer that a document may hold. -/
def held? (n : Int) : Option Value := if isHeld n then some (.integer n) else none

/-- Reads an integer in another base than ten. -/
def basedInteger? : List Char → Option Value
  | '0' :: letter :: ds =>
    match base? letter with
    | none => none
    | some base =>
      match digitGroups? (isDigitIn base) ds with
      | some ds => held? (valueIn base ds)
      | none => none
  | _ => none

/-- Reads an integer in base ten. -/
def decimalInteger? (cs : List Char) : Option Value :=
  let (negative, body) := splitSign cs
  match wholeDigits? body with
  | some ds => held? (if negative then -(digitsValue ds : Int) else digitsValue ds)
  | none => none

/-- The exponent of a float behind its mark. -/
def exponentOf? (cs : List Char) : Option Int :=
  let (negative, body) := splitSign cs
  (digitGroups? Char.isDigit body).map fun ds =>
    if negative then -(digitsValue ds : Int) else digitsValue ds

/-- Is the character the mark of an exponent? -/
def isExponentMark (c : Char) : Bool := c == 'e' || c == 'E'

/-- A float that is not too large. -/
def bounded? (x : Float) : Option Value := if x.isInf then none else some (.float x)

/-- Reads a float with a fraction or an exponent. -/
def decimalFloat? (negative : Bool) (cs : List Char) : Option Value :=
  let mantissa := cs.takeWhile fun c => !isExponentMark c
  let power := (cs.dropWhile fun c => !isExponentMark c).drop 1
  let marked := mantissa.length < cs.length
  let exponent := if marked then exponentOf? power else some 0
  let parts :=
    match splitFirst? '.' mantissa with
    | some (whole, fraction) => (wholeDigits? whole, digitGroups? Char.isDigit fraction)
    | none => (wholeDigits? mantissa, if marked then some [] else none)
  match parts, exponent with
  | (some whole, some fraction), some e =>
    bounded? (floatOfDecimal negative (digitsValue (whole ++ fraction)) (e - fraction.length))
  | _, _ => none

/-- Reads a float. -/
def float? (cs : List Char) : Option Value :=
  let (negative, body) := splitSign cs
  if body = "inf".toList then some (.float (infinity negative))
  else if body = "nan".toList then some (.float notANumber)
  else decimalFloat? negative body

/-! ## §2. Dates and times. -/

/-- The number of two digits, if it is not above a bound. -/
def pair? (bound : Nat) (a b : Char) : Option Nat :=
  if a.isDigit && b.isDigit && decide (digitsValue [a, b] ≤ bound) then
    some (digitsValue [a, b])
  else none

/-- The text behind a date. -/
def behindDate? : List Char → Option (List Char)
  | a :: b :: c :: d :: '-' :: e :: f :: '-' :: g :: h :: rest =>
    if [a, b, c, d].all Char.isDigit then
      match pair? 12 e f, pair? 31 g h with
      | some month, some day =>
        if (Date.of? (digitsValue [a, b, c, d]) month day).isSome then some rest else none
      | _, _ => none
    else none
  | _ => none

/-- The text behind a fraction of a second. -/
def behindFraction? : List Char → Option (List Char)
  | '.' :: rest =>
    let digits := rest.takeWhile Char.isDigit
    if digits.isEmpty then none else some (rest.drop digits.length)
  | rest => some rest

/-- The text behind a time; seconds may be missing. -/
def behindTime? : List Char → Option (List Char)
  | a :: b :: ':' :: c :: d :: rest =>
    match pair? 23 a b, pair? 59 c d with
    | some _, some _ =>
      match rest with
      | ':' :: e :: f :: rest =>
        match pair? 60 e f with
        | some _ => behindFraction? rest
        | none => none
      | rest => some rest
    | _, _ => none
  | _ => none

/-- Is the text the distance from universal time? -/
def isOffset : List Char → Bool
  | [c] => c == 'Z' || c == 'z'
  | [sign, a, b, ':', c, d] =>
    (sign == '+' || sign == '-') && (pair? 23 a b).isSome && (pair? 59 c d).isSome
  | _ => false

/-- Is the text a date, a time, or a date and a time? -/
def isMoment (cs : List Char) : Bool :=
  match behindDate? cs with
  | some [] => true
  | some (c :: rest) =>
    (c == 'T' || c == 't' || c == ' ') &&
      match behindTime? rest with
      | some [] => true
      | some rest => isOffset rest
      | none => false
  | none => behindTime? cs == some []

/-! ## §3. Any of them. -/

/-- The value that a text without quotes is. -/
def scalar? (cs : List Char) : Option Value :=
  if cs = "true".toList then some (.truth true)
  else if cs = "false".toList then some (.truth false)
  else if isMoment cs then some (.moment (String.ofList cs))
  else (basedInteger? cs <|> decimalInteger? cs) <|> float? cs

/-- The characters that end a value without quotes. -/
def endsScalar (c : Char) : Bool :=
  isGap c || c == '\n' || c == '\r' || c == ',' || c == ']' || c == '\x7d' || c == '#'

/-- Reads a value without quotes; a blank may stand between a date and a time. -/
def scalar : Scanner Value := fun cs =>
  let first := cs.takeWhile fun c => !endsScalar c
  let rest := cs.drop first.length
  let token :=
    match rest with
    | ' ' :: d :: more =>
      if behindDate? first == some [] && d.isDigit then
        first ++ ' ' :: (d :: more).takeWhile fun c => !endsScalar c
      else first
    | _ => first
  (scalar? token).map fun v => (v, cs.drop token.length)

end Fanout.Document
