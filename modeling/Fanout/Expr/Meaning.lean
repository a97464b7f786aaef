/-
  Fanout.Expr.Meaning
  ───────────────────
  **The value of an expression under bindings.**

  `Tree.eval` goes by recursion on the tree.  The operands of an operator
  are computed from left to right; `and`, `or` and a condition compute only
  what they need; a chain of comparisons ends at the first pair that does
  not hold; the arguments of a call are computed before what is called.
-/
import Fanout.Bindings
import Fanout.Expr.Tree.Grammar
import Fanout.Expr.Call

namespace Fanout.Expr

/-! ## §1. Names and calls. -/

/-- The value of a name: what is bound to it, else the function of that name. -/
def lookup (b : Bindings) (name : String) : Outcome Value :=
  match b.get? name with
  | some v => .ok v
  | none =>
    match Builtin.implicit? name with
    | some f => .ok (.builtin f)
    | none => .error (.undefinedName name)

/-- Calls a value that has to be a function. -/
def callValue (callee : Value) (args : List Value) : Outcome Value :=
  match callee with
  | .builtin f => callBuiltin f args
  | v => .error (.mismatch (.notCallable v.kind))

/-! ## §2. Evaluation. -/

mutual

/-- The value of a tree. -/
def Tree.eval (b : Bindings) : Tree → Outcome Value
  | .literal v => .ok v
  | .name n => lookup b n
  | .unary op operand => do unaryOperation op (← operand.eval b)
  | .binary op left right => do
    let l ← left.eval b
    let r ← right.eval b
    binaryOperation op l r
  | .both left right => do
    let l ← left.eval b
    if l.isTruthy then right.eval b else .ok l
  | .either left right => do
    let l ← left.eval b
    if l.isTruthy then .ok l else right.eval b
  | .compare first rest => do
    let l ← first.eval b
    chainHolds b l rest
  | .choose cond yes no => do
    let c ← cond.eval b
    if c.isTruthy then yes.eval b else no.eval b
  | .call (.attribute receiver method) args => do
    let vs ← evalAll b args
    let r ← receiver.eval b
    callMethod r method vs
  | .call callee args => do
    let vs ← evalAll b args
    let c ← callee.eval b
    callValue c vs
  | .attribute receiver attr => do
    let r ← receiver.eval b
    attributeOf r attr
  | .index target position => do
    let t ← target.eval b
    let p ← position.eval b
    characterAt t p

/-- The values of several trees, from left to right. -/
def evalAll (b : Bindings) : List Tree → Outcome (List Value)
  | [] => .ok []
  | t :: ts => do
    let v ← t.eval b
    let vs ← evalAll b ts
    .ok (v :: vs)

/-- Does every comparison of a chain hold, the first of them with `left` on its left? -/
def chainHolds (b : Bindings) (left : Value) : List (CompareOp × Tree) → Outcome Value
  | [] => .ok (.bool true)
  | (op, t) :: rest => do
    let right ← t.eval b
    if ← comparison op left right then chainHolds b right rest else .ok (.bool false)

end

/-- The value of a text read as an expression. -/
def evaluate (text : String) (b : Bindings) : Outcome Value := do
  let tree ← parse text
  tree.eval b

end Fanout.Expr
