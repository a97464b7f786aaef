/-
  Fanout.Combination
  ──────────────────
  **Every way to pick one value for each variable.**

  The combinations are numbered from 1 so that the variable declared last
  changes fastest: the number of a combination, written with the sizes of
  the value lists as bases, has the picked positions as its digits.
-/
import Fanout.Source.Declaration

namespace Fanout

/-! ## §1. Counting. -/

/-- The largest number of combinations of a source. -/
def maxCombinations : Nat := 1000000

/-- A product, unless it takes more than 64 bits. -/
def timesWithin (n m : Nat) : Option Nat := if n * m < Number.twoTo 64 then some (n * m) else none

/-- The product of the sizes of value lists, unless a product of the first of them takes
more than 64 bits. -/
def sizesWithin : Nat → List Variable → Option Nat
  | n, [] => some n
  | n, v :: rest =>
    match timesWithin n v.values.length with
    | some m => sizesWithin m rest
    | none => none

/-- The number of combinations, unless there are too many. -/
def combinationCount? (vars : List Variable) : Option Nat :=
  (sizesWithin 1 vars).filter fun n => decide (n ≤ maxCombinations)

/-! ## §2. Picking. -/

/-- The number of ways to pick a position from each of the lists of the given sizes. -/
def volume (sizes : List Nat) : Nat := sizes.foldr (· * ·) 1

/-- The positions that the combination with a number from 0 picks from lists of the given
sizes. -/
def picks : List Nat → Nat → List Nat
  | [], _ => []
  | _ :: sizes, n => n / volume sizes :: picks sizes (n % volume sizes)

/-- The name of a variable with the value at a position. -/
def pickFrom (v : Variable) (position : Nat) : Option (String × Value) :=
  v.values[position]?.map fun value => (v.name, value)

/-- The names of the variables with the values that the combination with a number from 0
picks. -/
def picked (vars : List Variable) (n : Nat) : List (String × Value) :=
  (List.zipWith pickFrom vars (picks (vars.map fun v => v.values.length) n)).filterMap
    id

/-- One value for each variable. -/
structure Combination where
  /-- The number of the combination, from 1. -/
  index : Nat
  /-- The variables with their values. -/
  bindings : Bindings
  deriving DecidableEq

/-- The combination with a number from 0. -/
def combinationAt (vars : List Variable) (n : Nat) : Combination :=
  ⟨n + 1, Bindings.empty.bindAll (picked vars n)⟩

/-- All combinations; none if there are too many. -/
def combinations (vars : List Variable) : List Combination :=
  (List.range ((combinationCount? vars).getD 0)).map (combinationAt vars)

end Fanout
