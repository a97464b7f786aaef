/-
  Fanout.Expr.Tree
  ────────────────
  **Expressions as trees.**
-/
import Fanout.Value

namespace Fanout.Expr

/-! ## §1. Operators. -/

/-- Operators with one operand. -/
inductive UnaryOp where
  | neg | pos | not
  deriving DecidableEq, Repr

/-- Arithmetic operators with two operands. -/
inductive BinaryOp where
  | add | sub | mul | div | floorDiv | mod | pow
  deriving DecidableEq, Repr

/-- How an arithmetic operator is written. -/
def BinaryOp.symbol : BinaryOp → String
  | .add => "+"
  | .sub => "-"
  | .mul => "*"
  | .div => "/"
  | .floorDiv => "//"
  | .mod => "%"
  | .pow => "**"

/-- Comparison operators. -/
inductive CompareOp where
  | eq | ne | lt | le | gt | ge
  deriving DecidableEq, Repr

/-- How a comparison operator is written. -/
def CompareOp.symbol : CompareOp → String
  | .eq => "=="
  | .ne => "!="
  | .lt => "<"
  | .le => "<="
  | .gt => ">"
  | .ge => ">="

/-! ## §2. Trees. -/

/-- An expression. -/
inductive Tree where
  /-- A value written out. -/
  | literal (v : Value)
  /-- A name. -/
  | name (n : String)
  /-- An operator before its operand. -/
  | unary (op : UnaryOp) (operand : Tree)
  /-- An arithmetic operator between its operands. -/
  | binary (op : BinaryOp) (left right : Tree)
  /-- Conjunction, `left and right`: the first operand that is not true, else the second. -/
  | both (left right : Tree)
  /-- Disjunction, `left or right`: the first operand that is true, else the second. -/
  | either (left right : Tree)
  /-- A chain of comparisons, `first op₁ x₁ op₂ x₂ …`: every neighbouring pair holds. -/
  | compare (first : Tree) (rest : List (CompareOp × Tree))
  /-- A choice, `yes if cond else no`. -/
  | choose (cond yes no : Tree)
  /-- A call, `callee(args…)`. -/
  | call (callee : Tree) (args : List Tree)
  /-- An attribute, `receiver.attr`. -/
  | attribute (receiver : Tree) (attr : String)
  /-- A character of a text, `target[position]`. -/
  | index (target position : Tree)

end Fanout.Expr
