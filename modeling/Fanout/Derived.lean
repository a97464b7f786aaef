/-
  Fanout.Derived
  ──────────────
  **Names computed from other names.**

  A declaration gives a name to the value of an expression.  Declarations
  are resolved one after the other, each under the bindings that those
  before it have left; the first failure ends it and the bindings stay as
  they are then.
-/
import Fanout.Expr.Meaning

namespace Fanout

open Fanout.Expr

/-! ## §1. Declarations. -/

/-- A name declared as the value of an expression. -/
structure Derived where
  /-- The name. -/
  name : String
  /-- The text of the expression. -/
  expression : String
  /-- The line of the declaration, from 1. -/
  line : Nat
  deriving DecidableEq, Repr

/-- A declaration without a value. -/
structure DerivedError where
  /-- The name that is declared. -/
  name : String
  /-- The line of the declaration. -/
  line : Nat
  /-- Why its expression has no value. -/
  cause : EvalError
  deriving DecidableEq

/-- The wording of a failure. -/
def DerivedError.message (e : DerivedError) : String :=
  e.cause.category ++ ": " ++ e.cause.message ++ " at line " ++ countText e.line

/-! ## §2. Resolving. -/

/-- The name under which expressions reach the reading of timestamps. -/
def timestampName : String := "ts"

/-- The bindings with the reading of timestamps bound to its name. -/
def Bindings.withTimestamps (b : Bindings) : Bindings := b.bind timestampName (.builtin .ts)

/-- A computed value as it is bound: texts get double quotes. -/
def bound : Value → Value
  | .str s => .str (quoted s)
  | v => v

/-- The bindings after declarations, and the failure that ended it, if there was one. -/
def resolveDerived (b : Bindings) : List Derived → Bindings × Option DerivedError
  | [] => (b, none)
  | d :: rest =>
    match evaluate d.expression b with
    | .ok v => resolveDerived (b.bind d.name (bound v)) rest
    | .error cause => (b, some ⟨d.name, d.line, cause⟩)

end Fanout
