/-
  Fanout.Expr.Token
  ─────────────────
  **The tokens of expressions.**
-/
import Fanout.Value

namespace Fanout.Expr

open Fanout.Number

/-- Words and signs with a fixed meaning. -/
inductive Symbol where
  | trueWord | falseWord | noneWord
  | andWord | orWord | notWord | ifWord | elseWord
  | plus | minus | star | doubleStar | slash | doubleSlash | percent
  | eqEq | notEq | less | lessEq | greater | greaterEq
  | leftParen | rightParen | leftBracket | rightBracket | comma | dot
  deriving DecidableEq, Repr

/-- A symbol's name in diagnostics. -/
def Symbol.describe : Symbol → String
  | .trueWord => "True"
  | .falseWord => "False"
  | .noneWord => "None"
  | .andWord => "And"
  | .orWord => "Or"
  | .notWord => "Not"
  | .ifWord => "If"
  | .elseWord => "Else"
  | .plus => "Plus"
  | .minus => "Minus"
  | .star => "Star"
  | .doubleStar => "DoubleStar"
  | .slash => "Slash"
  | .doubleSlash => "DoubleSlash"
  | .percent => "Percent"
  | .eqEq => "EqEq"
  | .notEq => "NotEq"
  | .less => "Lt"
  | .lessEq => "Le"
  | .greater => "Gt"
  | .greaterEq => "Ge"
  | .leftParen => "LParen"
  | .rightParen => "RParen"
  | .leftBracket => "LBracket"
  | .rightBracket => "RBracket"
  | .comma => "Comma"
  | .dot => "Dot"

/-- A token. -/
inductive Token where
  | int (n : Int64)
  | float (x : Float)
  | str (s : String)
  | ident (s : String)
  | symbol (s : Symbol)
  deriving DecidableEq

/-- A token together with the byte where it starts. -/
structure Located where
  /-- The token. -/
  token : Token
  /-- The number of bytes before it. -/
  position : Nat
  deriving DecidableEq

/-- The tokens of a text, and the length of the text in bytes. -/
structure Tokens where
  /-- The tokens in order. -/
  items : List Located
  /-- Where the text ends. -/
  stop : Nat
  deriving DecidableEq

end Fanout.Expr
