/-
  Fanout.Expr.Arithmetic
  ──────────────────────
  **What the operators compute.**

  Integer operations are exact or refused.  An operation with a float among
  its operands, and every division by `/`, is one of floats.  Texts can be
  joined and repeated, points in time moved and subtracted, durations
  added, subtracted and multiplied; every other combination of kinds is a
  mismatch.
-/
import Fanout.Expr.Failure

namespace Fanout.Expr

open Fanout.Number Fanout.Calendar

/-! ## §1. Integers. -/

/-- An exact result as a value, or an overflow. -/
def narrowed (operation : Overflowing) (n : Int) : Outcome Value :=
  match narrow? n with
  | some w => .ok (.int w)
  | none => .error (.overflow operation)

/-- Is exactly one of two integers negative? -/
def signsDiffer (x y : Int64) : Bool := decide (x < 0) != decide (y < 0)

/-- The quotient rounded down: one below the quotient towards zero where that one was rounded
up.  The quotient towards zero has to fit. -/
def floorQuotient (x y : Int64) : Outcome Value :=
  if y = 0 then .error .divisionByZero
  else
    match quotient? x y with
    | none => .error (.overflow (.operator .floorDiv))
    | some q => .ok (.int (if x % y ≠ 0 ∧ signsDiffer x y then q - 1 else q))

/-- The remainder with the sign of the divisor.  The quotient towards zero has to fit. -/
def floorRemainder (x y : Int64) : Outcome Value :=
  if y = 0 then .error .divisionByZero
  else
    match remainder? x y with
    | none => .error (.overflow (.operator .mod))
    | some r => .ok (.int (if r ≠ 0 ∧ signsDiffer r y then r + y else r))

/-- The exponents up to which a power of integers is an integer. -/
def maxExponent : Int := 4294967295

/-- A power of integers, as long as every factor of it that repeated squaring needs fits. -/
def integerPower (x : Int64) (n : Nat) : Outcome Value :=
  match powerFrom? 1 x n with
  | none => .error (.overflow (.operator .pow))
  | some w => .ok (.int w)

/-! ## §2. Floats. -/

/-- The remainder with the sign of the divisor. -/
def floatRemainder (x y : Float) : Float :=
  let r := remainder x y
  if !isZero r && !isNaN r && (isNegative r != (isNegative y && !isNaN y)) then r + y else r

/-- An operation on floats. -/
def floatOperation (op : BinaryOp) (x y : Float) : Outcome Value :=
  match op with
  | .add => .ok (.float (x + y))
  | .sub => .ok (.float (x - y))
  | .mul => .ok (.float (x * y))
  | .div => if isZero y then .error .divisionByZero else .ok (.float (x / y))
  | .floorDiv => if isZero y then .error .divisionByZero else .ok (.float (floor (x / y)))
  | .mod => if isZero y then .error .divisionByZero else .ok (.float (floatRemainder x y))
  | .pow =>
    if isZero x && isNegative y && !isNaN y && !isZero y then .error .divisionByZero
    else .ok (.float (power x y))

/-- An operation on integers. -/
def integerOperation (op : BinaryOp) (x y : Int64) : Outcome Value :=
  match op with
  | .add => narrowed (.operator .add) (x.toInt + y.toInt)
  | .sub => narrowed (.operator .sub) (x.toInt - y.toInt)
  | .mul => narrowed (.operator .mul) (x.toInt * y.toInt)
  | .div => floatOperation .div (floatOfWord x) (floatOfWord y)
  | .floorDiv => floorQuotient x y
  | .mod => floorRemainder x y
  | .pow =>
    if 0 ≤ y.toInt ∧ y.toInt ≤ maxExponent then integerPower x y.toInt.toNat
    else floatOperation .pow (floatOfWord x) (floatOfWord y)

/-- An operation on numbers. -/
def numericOperation (op : BinaryOp) (x y : Numeric) : Outcome Value :=
  match x, y with
  | .int a, .int b => integerOperation op a b
  | a, b => floatOperation op a.toFloat b.toFloat

/-! ## §3. Texts, points in time and durations. -/

/-- The longest text that a repetition may build, in bytes. -/
def maxTextLength : Nat := 67108864

/-- A text written `n` times in a row. -/
def repeatText (s : String) (n : Nat) : String :=
  if s.isEmpty then "" else Nat.repeat (fun acc => acc ++ s) n ""

/-- The repetition of a text; not at all for a negative number. -/
def repetition (s : String) (n : Int64) : Outcome Value :=
  let times := n.toInt.toNat
  if s.utf8ByteSize * times ≤ maxTextLength then .ok (.str (repeatText s times))
  else .error (.overflow (.operator .mul))

/-- A point in time as a result, or an overflow. -/
def movedTime (t : Option DateTime) : Outcome Value :=
  match t with
  | some t => .ok (.dateTime t)
  | none => .error (.overflow .dateTime)

/-- A duration as a result, or an overflow. -/
def newDuration (d : Option Duration) : Outcome Value :=
  match d with
  | some d => .ok (.duration d)
  | none => .error (.overflow .duration)

/-- An operation on two values that are not both numbers. -/
def otherOperation (op : BinaryOp) (x y : Value) : Outcome Value :=
  match op, x, y with
  | .add, .str a, .str b => .ok (.str (a ++ b))
  | .mul, .str s, .int n => repetition s n
  | .mul, .int n, .str s => repetition s n
  | .add, .dateTime t, .duration d => movedTime (t.add? d)
  | .add, .duration d, .dateTime t => movedTime (t.add? d)
  | .sub, .dateTime t, .duration d => movedTime (t.sub? d)
  | .sub, .dateTime a, .dateTime b => newDuration (a.sub b)
  | .add, .duration a, .duration b => newDuration (a.add? b)
  | .sub, .duration a, .duration b => newDuration (a.sub? b)
  | .mul, .duration d, .int n => newDuration (d.mul? n)
  | .mul, .int n, .duration d => newDuration (d.mul? n)
  | op, x, y => .error (.mismatch (.operands op x.kind y.kind))

/-! ## §4. All operators. -/

/-- What an arithmetic operator gives. -/
def binaryOperation (op : BinaryOp) (x y : Value) : Outcome Value :=
  match x.numeric?, y.numeric? with
  | some a, some b => numericOperation op a b
  | _, _ => otherOperation op x y

/-- What an operator before its operand gives. -/
def unaryOperation (op : UnaryOp) (x : Value) : Outcome Value :=
  match op with
  | .not => .ok (.bool !x.isTruthy)
  | .neg =>
    match x, x.numeric? with
    | .duration d, _ => .ok (.duration d.neg)
    | _, some (.int n) => narrowed .negation (-n.toInt)
    | _, some (.float f) => .ok (.float (-f))
    | x, none => .error (.mismatch (.unaryOperand "-" x.kind))
  | .pos =>
    match x, x.numeric? with
    | _, some n => .ok n.toValue
    | .duration d, none => .ok (.duration d)
    | x, none => .error (.mismatch (.unaryOperand "+" x.kind))

/-- Does an order satisfy a comparison? -/
def CompareOp.holdsFor : CompareOp → Ordering → Bool
  | .eq, o => o == .eq
  | .ne, o => o != .eq
  | .lt, o => o == .lt
  | .le, o => o != .gt
  | .gt, o => o == .gt
  | .ge, o => o != .lt

/-- What a comparison gives.  Any two values can be compared for equality. -/
def comparison (op : CompareOp) (x y : Value) : Outcome Bool :=
  match op with
  | .eq => .ok (x.equals y)
  | .ne => .ok !(x.equals y)
  | op =>
    match x.order y with
    | some o => .ok (op.holdsFor o)
    | none => .error (.mismatch (.unordered op x.kind y.kind))

/-- The character of a text at a position; negative positions count from the end. -/
def characterAt (target position : Value) : Outcome Value :=
  match target, position.numeric? with
  | .str s, some (.int i) =>
    let place := if i.toInt < 0 then i.toInt + s.length else i.toInt
    if place < 0 then .error .indexOutOfRange
    else
      match s.toList[place.toNat]? with
      | some c => .ok (.str c.toString)
      | none => .error .indexOutOfRange
  | target, _ => .error (.mismatch (.subscript target.kind position.kind))

end Fanout.Expr
