/-
  Fanout.Proofs.Expr.Demand
  ─────────────────────────
  **Names whose values are asked for.**

  `and`, `or`, a choice and a long chain of comparisons may leave a part of
  a tree out.  Everything else is computed, whatever the other parts come
  to, and a part without a value leaves the whole tree without one:

    • `Tree.names` — the names in a tree,
    • `Demands` — the names that no computation of a tree gets around,
    • `Demands.fails` — a tree has no value if it demands a name that has
      none,
    • `Eager.demands` — a tree that leaves nothing out demands all of its
      names.
-/
import Fanout.Expr.Meaning

namespace Fanout.Expr

/-! ## §1. Names. -/

mutual

/-- The names in a tree, from left to right; attributes and methods are none. -/
def Tree.names : Tree → List String
  | .literal _ => []
  | .name n => [n]
  | .unary _ x => x.names
  | .binary _ l r => l.names ++ r.names
  | .both l r => l.names ++ r.names
  | .either l r => l.names ++ r.names
  | .compare x rest => x.names ++ comparisonNames rest
  | .choose cond yes no => yes.names ++ (cond.names ++ no.names)
  | .call f args => f.names ++ argumentNames args
  | .attribute x _ => x.names
  | .index x i => x.names ++ i.names

/-- The names in the comparisons behind the first operand of a chain. -/
def comparisonNames : List (CompareOp × Tree) → List String
  | [] => []
  | (_, x) :: rest => x.names ++ comparisonNames rest

/-- The names in arguments. -/
def argumentNames : List Tree → List String
  | [] => []
  | x :: xs => x.names ++ argumentNames xs

end

variable {n : String}

theorem mem_comparisonNames_iff {rest : List (CompareOp × Tree)} :
    n ∈ comparisonNames rest ↔ ∃ p ∈ rest, n ∈ p.2.names := by
  induction rest with
  | nil => simp [comparisonNames]
  | cons p rest ih => simp [comparisonNames, ih]

theorem mem_argumentNames_iff {args : List Tree} :
    n ∈ argumentNames args ↔ ∃ x ∈ args, n ∈ x.names := by
  induction args with
  | nil => simp [argumentNames]
  | cons x args ih => simp [argumentNames, ih]

/-! ## §2. Demanded names. -/

/-- Every computation of a tree asks for the value of the name, unless it fails before. -/
inductive Demands (n : String) : Tree → Prop where
  | name : Demands n (.name n)
  | operand (op : UnaryOp) {x : Tree} (h : Demands n x) : Demands n (.unary op x)
  | left (op : BinaryOp) {l : Tree} (h : Demands n l) (r : Tree) : Demands n (.binary op l r)
  | right (op : BinaryOp) (l : Tree) {r : Tree} (h : Demands n r) : Demands n (.binary op l r)
  | both {l : Tree} (h : Demands n l) (r : Tree) : Demands n (.both l r)
  | either {l : Tree} (h : Demands n l) (r : Tree) : Demands n (.either l r)
  | first {x : Tree} (h : Demands n x) (rest : List (CompareOp × Tree)) :
      Demands n (.compare x rest)
  | second (x : Tree) (op : CompareOp) {y : Tree} (h : Demands n y)
      (rest : List (CompareOp × Tree)) : Demands n (.compare x ((op, y) :: rest))
  | condition {cond : Tree} (h : Demands n cond) (yes no : Tree) : Demands n (.choose cond yes no)
  | argument (f : Tree) {args : List Tree} {x : Tree} (mem : x ∈ args) (h : Demands n x) :
      Demands n (.call f args)
  | callee {f : Tree} (h : Demands n f) (plain : ∀ x attr, f ≠ .attribute x attr)
      (args : List Tree) : Demands n (.call f args)
  | receiver {x : Tree} (h : Demands n x) (method : String) (args : List Tree) :
      Demands n (.call (.attribute x method) args)
  | attr {x : Tree} (h : Demands n x) (attr : String) : Demands n (.attribute x attr)
  | target {x : Tree} (h : Demands n x) (i : Tree) : Demands n (.index x i)
  | position (x : Tree) {i : Tree} (h : Demands n i) : Demands n (.index x i)

/-- Nothing comes of a computation but a failure. -/
def Fails {α : Type} (o : Outcome α) : Prop := ∃ e, o = .error e

section Failures

variable {α β : Type} {o : Outcome α} {next : α → Outcome β}

theorem Fails.bind (h : Fails o) : Fails (o >>= next) := by
  obtain ⟨e, rfl⟩ := h
  exact ⟨e, rfl⟩

theorem fails_bind (h : ∀ a, Fails (next a)) : Fails (o >>= next) := by
  cases o with
  | error e => exact ⟨e, rfl⟩
  | ok a => exact h a

end Failures

variable {b : Bindings}

/-- Arguments have no values together if one of them has none. -/
theorem fails_evalAll {x : Tree} (h : Fails (x.eval b)) :
    ∀ {args : List Tree}, x ∈ args → Fails (evalAll b args)
  | y :: args, hmem => by
      rw [evalAll]
      rcases List.mem_cons.mp hmem with rfl | hmem
      · exact h.bind
      · exact fails_bind fun _ => (fails_evalAll h hmem).bind

/-- A call begins with its arguments. -/
theorem fails_call {args : List Tree} (h : Fails (evalAll b args)) (f : Tree) :
    Fails ((Tree.call f args).eval b) := by
  cases f with
  | _ => exact h.bind

/-- **A tree that demands a name without a value has none.** -/
theorem Demands.fails {t : Tree} (h : Demands n t) (hn : Fails (lookup b n)) :
    Fails (t.eval b) := by
  induction h with
  | name => exact hn
  | operand op _ ih | left op _ _ ih | both _ _ ih | either _ _ ih | first _ _ ih
  | condition _ _ _ ih | attr _ _ ih | target _ _ ih =>
      rw [Tree.eval]
      exact ih.bind
  | right op _ _ ih | position _ _ ih =>
      rw [Tree.eval]
      exact fails_bind fun _ => ih.bind
  | second x op _ rest ih =>
      rw [Tree.eval]
      refine fails_bind fun left => ?_
      rw [chainHolds]
      exact ih.bind
  | argument f hmem _ ih => exact fails_call (fails_evalAll ih hmem) f
  | callee _ hplain _ ih =>
      rw [Tree.eval]
      · exact fails_bind fun _ => ih.bind
      · exact hplain
  | receiver _ _ _ ih =>
      rw [Tree.eval]
      exact fails_bind fun _ => ih.bind

/-! ## §3. Trees that leave nothing out. -/

/-- Trees without `and` and `or`, without choices, and without chains of more than one
comparison. -/
inductive Eager : Tree → Prop where
  | literal (v : Value) : Eager (.literal v)
  | name (m : String) : Eager (.name m)
  | unary (op : UnaryOp) {x : Tree} (operand : Eager x) : Eager (.unary op x)
  | binary (op : BinaryOp) {l r : Tree} (left : Eager l) (right : Eager r) : Eager (.binary op l r)
  | compare {x : Tree} {rest : List (CompareOp × Tree)} (first : Eager x)
      (others : ∀ p ∈ rest, Eager p.2) (short : rest.length ≤ 1) : Eager (.compare x rest)
  | call {f : Tree} {args : List Tree} (callee : Eager f) (arguments : ∀ x ∈ args, Eager x) :
      Eager (.call f args)
  | attr {x : Tree} (receiver : Eager x) (attr : String) : Eager (.attribute x attr)
  | index {x i : Tree} (target : Eager x) (position : Eager i) : Eager (.index x i)

/-- What is called is demanded, be it a method or a function. -/
theorem Demands.call {f : Tree} (h : Demands n f) (args : List Tree) :
    Demands n (.call f args) := by
  by_cases hmethod : ∃ x attr, f = .attribute x attr
  · obtain ⟨x, attr, rfl⟩ := hmethod
    cases h with
    | attr h => exact .receiver h attr args
  · exact .callee h (fun x attr hf => hmethod ⟨x, attr, hf⟩) args

/-- **A tree that leaves nothing out demands all of its names.** -/
theorem Eager.demands {t : Tree} (h : Eager t) : n ∈ t.names → Demands n t := by
  induction h with
  | literal v => exact fun hn => absurd hn List.not_mem_nil
  | name m =>
      intro hn
      obtain rfl := List.mem_singleton.mp hn
      exact .name
  | unary op _ ih => exact fun hn => .operand op (ih hn)
  | @binary op l r _ _ ihl ihr =>
      intro hn
      rw [Tree.names] at hn
      rcases List.mem_append.mp hn with hn | hn
      · exact .left op (ihl hn) r
      · exact .right op l (ihr hn)
  | @compare x rest _ _ hshort ihx ihrest =>
      intro hn
      rw [Tree.names] at hn
      rcases List.mem_append.mp hn with hn | hn
      · exact .first (ihx hn) rest
      · -- The chain has one comparison, whose operand is always computed.
        obtain ⟨⟨op, y⟩, hmem, hn⟩ := mem_comparisonNames_iff.mp hn
        have hy := ihrest _ hmem hn
        obtain ⟨before, behind, rfl⟩ := List.append_of_mem hmem
        rw [List.length_append, List.length_cons] at hshort
        obtain rfl : before = [] := List.length_eq_zero_iff.mp (by omega)
        exact .second x op hy behind
  | @call f args _ _ ihf ihargs =>
      intro hn
      rw [Tree.names] at hn
      rcases List.mem_append.mp hn with hn | hn
      · exact (ihf hn).call args
      · obtain ⟨x, hmem, hn⟩ := mem_argumentNames_iff.mp hn
        exact .argument f hmem (ihargs x hmem hn)
  | attr _ attr ih => exact fun hn => .attr (ih hn) attr
  | @index x i _ _ ihx ihi =>
      intro hn
      rw [Tree.names] at hn
      rcases List.mem_append.mp hn with hn | hn
      · exact .target (ihx hn) i
      · exact .position x (ihi hn)

end Fanout.Expr
