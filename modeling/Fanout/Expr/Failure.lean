/-
  Fanout.Expr.Failure
  ───────────────────
  **Why an expression has no value.**

  A failure is one of nine kinds.  Each constructor names the cause; the
  wording of the diagnostics is in `EvalError.message` and the functions it
  uses, and nowhere else.
-/
import Fanout.Text.Escaped
import Fanout.Expr.Token
import Fanout.Expr.Tree
import Fanout.Expr.Method

namespace Fanout.Expr

open Fanout.Number

/-! ## §1. Malformed text. -/

/-- What the parser expects at a place where it finds something else. -/
inductive Expected where
  | operand | elseWord | rightBracket | rightParen | commaOrRightParen | attributeName | theEnd
  deriving DecidableEq, Repr

/-- How an expectation is worded. -/
def Expected.describe : Expected → String
  | .operand => "an operand"
  | .elseWord => "'else'"
  | .rightBracket => "']'"
  | .rightParen => "')'"
  | .commaOrRightParen => "',' or ')'"
  | .attributeName => "attribute name"
  | .theEnd => "end of expression"

/-- How a token, or the end of the text, is worded. -/
def describeToken : Option Token → String
  | some (.int n) => intText n.toInt
  | some (.float x) => plainText x
  | some (.str s) => Text.escaped s
  | some (.ident s) => s
  | some (.symbol s) => s.describe
  | none => "end of input"

/-- What is wrong with the form of a text. -/
inductive SyntaxFault where
  /-- There is no token at all. -/
  | empty
  /-- A character that begins no token. -/
  | strayCharacter (c : Char)
  /-- Half of an operator that is written with two equal characters. -/
  | halfOperator (whole : String)
  /-- A text literal without its closing quote. -/
  | openText
  /-- Digits of a number that is no integer value. -/
  | wideInteger (digits : String)
  /-- Another token than the grammar has here. -/
  | unexpected (found : Option Token) (expected : Expected)
  deriving DecidableEq

/-- The wording of a fault. -/
def SyntaxFault.message : SyntaxFault → String
  | .empty => "empty expression"
  | .strayCharacter c => "unexpected character '" ++ c.toString ++ "'"
  | .halfOperator whole => "expected '" ++ whole ++ "'"
  | .openText => "unterminated string literal"
  | .wideInteger digits => "invalid integer '" ++ digits ++ "'"
  | .unexpected found expected =>
    "unexpected " ++ describeToken found ++ ", expected " ++ expected.describe

/-! ## §2. Values of the wrong kind. -/

/-- Which operation met a value of a kind that it has no meaning for. -/
inductive Mismatch where
  | notCallable (kind : Kind)
  | unaryOperand (symbol : String) (kind : Kind)
  | operands (op : BinaryOp) (left right : Kind)
  | unordered (op : CompareOp) (left right : Kind)
  | subscript (target position : Kind)
  | argument (f : Builtin) (kind : Kind)
  | argumentCount (f : Builtin) (given : Nat)
  | noArgument (f : Builtin)
  | incomparable (f : Builtin) (candidate best : Kind)
  | roundArguments
  | noLength (kind : Kind)
  | methodArguments (m : Method) (takes given : Nat)
  | patternKind (kind : Kind)
  | textArgument (m : Method) (kind : Kind)
  | textArgumentCount (m : Method) (given : Nat)
  deriving DecidableEq

/-- The decimal text of a count. -/
def countText (n : Nat) : String := String.ofList (digitsOf n)

/-- The wording of a mismatch. -/
def Mismatch.message : Mismatch → String
  | .notCallable k => s!"'{k.name}' object is not callable"
  | .unaryOperand symbol k => s!"bad operand type for unary {symbol}: '{k.name}'"
  | .operands op l r =>
    s!"unsupported operand type(s) for {op.symbol}: '{l.name}' and '{r.name}'"
  | .unordered op l r =>
    s!"'{op.symbol}' not supported between instances of '{l.name}' and '{r.name}'"
  | .subscript t p => s!"'{t.name}' object is not subscriptable with '{p.name}'"
  | .argument f k => s!"{f.name}() does not accept '{k.name}'"
  | .argumentCount f n => s!"{f.name}() takes exactly 1 argument ({countText n} given)"
  | .noArgument f => s!"{f.name}() expected at least 1 argument"
  | .incomparable f c b => s!"{f.name}() cannot compare '{c.name}' and '{b.name}'"
  | .roundArguments => "round() takes 1 or 2 arguments"
  | .noLength k => s!"object of type '{k.name}' has no len()"
  | .methodArguments m t n =>
    s!"{m.name}() takes {countText t} argument(s) ({countText n} given)"
  | .patternKind k => s!"strftime() argument must be str, not '{k.name}'"
  | .textArgument m k => s!"{m.name}() arguments must be str, not '{k.name}'"
  | .textArgumentCount m n => s!"{m.name}() got {countText n} argument(s)"

/-! ## §3. Values out of reach. -/

/-- A text that stands for no value of the kind wanted. -/
inductive BadText where
  | timestamp (text : String)
  | int (text : String)
  | float (text : String)
  | pattern (text : String)
  deriving DecidableEq

/-- The wording of a text that cannot be read. -/
def BadText.message : BadText → String
  | .timestamp s => "timestamp " ++ s ++ " did not match any parseable time format"
  | .int s => "invalid literal for int(): " ++ Text.escaped s
  | .float s => "could not convert string to float: " ++ Text.escaped s
  | .pattern s => "invalid strftime format " ++ Text.escaped s

/-- The operations whose result may be too large. -/
inductive Overflowing where
  | operator (op : BinaryOp)
  | negation | abs | int | round
  | dateTime | duration | totalSeconds
  deriving DecidableEq, Repr

/-- The name of an operation whose result is too large. -/
def Overflowing.describe : Overflowing → String
  | .operator op => op.symbol
  | .negation => "negation"
  | .abs => "abs"
  | .int => "int"
  | .round => "round"
  | .dateTime => "datetime arithmetic"
  | .duration => "timedelta arithmetic"
  | .totalSeconds => "total_seconds"

/-! ## §4. Failures. -/

/-- The deepest nesting an expression may have. -/
def maxNesting : Nat := 64

/-- Why an expression has no value. -/
inductive EvalError where
  /-- The text is malformed at a byte. -/
  | malformed (fault : SyntaxFault) (position : Nat)
  /-- Nothing is bound to the name. -/
  | undefinedName (name : String)
  /-- An operation met a value of the wrong kind. -/
  | mismatch (cause : Mismatch)
  /-- A text stands for no value. -/
  | badText (cause : BadText)
  /-- A divisor is zero. -/
  | divisionByZero
  /-- The result is too large. -/
  | overflow (operation : Overflowing)
  /-- There is no character at the position. -/
  | indexOutOfRange
  /-- The value has no such attribute or method. -/
  | unknownAttribute (kind : Kind) (attr : String)
  /-- Too many levels are open at once. -/
  | nestingTooDeep
  deriving DecidableEq

/-- The name of a kind of failure. -/
def EvalError.category : EvalError → String
  | .malformed _ _ => "Syntax"
  | .undefinedName _ => "UndefinedName"
  | .mismatch _ => "TypeMismatch"
  | .badText _ => "InvalidValue"
  | .divisionByZero => "DivisionByZero"
  | .overflow _ => "Overflow"
  | .indexOutOfRange => "IndexOutOfRange"
  | .unknownAttribute _ _ => "UnknownAttribute"
  | .nestingTooDeep => "NestingTooDeep"

/-- The wording of a failure. -/
def EvalError.message : EvalError → String
  | .malformed fault position => fault.message ++ " (at offset " ++ countText position ++ ")"
  | .undefinedName name => "name '" ++ name ++ "' is not defined"
  | .mismatch cause => cause.message
  | .badText cause => cause.message
  | .divisionByZero => "division by zero"
  | .overflow operation => "integer overflow in " ++ operation.describe
  | .indexOutOfRange => "string index out of range"
  | .unknownAttribute kind attr =>
    "'" ++ kind.name ++ "' object has no attribute '" ++ attr ++ "'"
  | .nestingTooDeep => "expression nesting exceeds " ++ countText maxNesting ++ " levels"

/-- What computing with expressions gives: a result or a failure. -/
abbrev Outcome (α : Type) := Except EvalError α

end Fanout.Expr
