/-
  Fanout.Proofs.Expr.Height
  ─────────────────────────
  **How high the trees of expressions can be.**

  Evaluating a tree and giving it back both go down it node by node, so
  that they recurse as deep as the tree is high.  Operators of one rank and
  what is attached to an operand are read in a loop that opens no level: each
  of them puts one more node above its *first* operand.  Everything else that
  puts a node above another one is bounded by the levels:

    • `Tree.height` — the nodes on the longest way down,
    • `Tree.nesting` — those of them that are no first operands of chains,
    • `Tree.links` — those that are,
    • `height_le` — the height is no more than both together,
    • `nestedWithin_phrases` — a level nests a tree by eight at most,
    • `height_le_of_parse` — the height of a parsed tree is bounded up to
      its links,
    • `not_exists_height_le` — without them it is not bounded: a sum can
      be as long as one likes.
-/
import Fanout.Proofs.Expr.RoundTrip

namespace Fanout.Expr

open Phrase

/-! ## §1. Ways down. -/

mutual

/-- The weight of the heaviest way down a tree, where going to the first operand of a chain weighs
`first`, and every other node on the way, the one where it begins included, weighs `other`.  The
operators but `**` make chains, and so do calls, attributes and positions. -/
def Tree.extent (first other : Nat) : Tree → Nat
  | .literal _ => other
  | .name _ => other
  | .unary _ x => x.extent first other + other
  | .binary op l r =>
    max (l.extent first other + if op = .pow then other else first) (r.extent first other + other)
  | .both l r => max (l.extent first other + first) (r.extent first other + other)
  | .either l r => max (l.extent first other + first) (r.extent first other + other)
  | .compare x rest => max (x.extent first other + other) (comparisonExtent first other rest)
  | .choose cond yes no =>
    max (cond.extent first other + other)
      (max (yes.extent first other + other) (no.extent first other + other))
  | .call f args => max (f.extent first other + first) (argumentExtent first other args)
  | .attribute x _ => x.extent first other + first
  | .index x i => max (x.extent first other + first) (i.extent first other + other)

/-- The weight of the heaviest way down the comparisons behind the first operand of a chain of
comparisons, which is one node. -/
def comparisonExtent (first other : Nat) : List (CompareOp × Tree) → Nat
  | [] => 0
  | (_, x) :: rest => max (x.extent first other + other) (comparisonExtent first other rest)

/-- The weight of the heaviest way down arguments. -/
def argumentExtent (first other : Nat) : List Tree → Nat
  | [] => 0
  | x :: xs => max (x.extent first other + other) (argumentExtent first other xs)

end

/-- The number of nodes on the longest way down a tree: how deep its evaluation recurses. -/
def Tree.height (x : Tree) : Nat := x.extent 1 1

/-- The number of nodes on a way down a tree that are not the first operand of a chain. -/
def Tree.nesting (x : Tree) : Nat := x.extent 0 1

/-- The number of nodes on a way down a tree that are the first operand of a chain. -/
def Tree.links (x : Tree) : Nat := x.extent 1 0

mutual

/-- A way that is heaviest for the sum of two weights is no heavier than two ways, each of them
heaviest for one of the weights. -/
theorem extent_add_le (a b c d : Nat) :
    ∀ x : Tree, x.extent (a + c) (b + d) ≤ x.extent a b + x.extent c d
  | .literal _ => Nat.le_refl _
  | .name _ => Nat.le_refl _
  | .unary _ x => by
      have hx := extent_add_le a b c d x
      simp only [Tree.extent]
      omega
  | .binary op l r => by
      have hl := extent_add_le a b c d l
      have hr := extent_add_le a b c d r
      simp only [Tree.extent]
      split <;> omega
  | .both l r => by
      have hl := extent_add_le a b c d l
      have hr := extent_add_le a b c d r
      simp only [Tree.extent]
      omega
  | .either l r => by
      have hl := extent_add_le a b c d l
      have hr := extent_add_le a b c d r
      simp only [Tree.extent]
      omega
  | .compare x rest => by
      have hx := extent_add_le a b c d x
      have hrest := comparisonExtent_add_le a b c d rest
      simp only [Tree.extent]
      omega
  | .choose cond yes no => by
      have hcond := extent_add_le a b c d cond
      have hyes := extent_add_le a b c d yes
      have hno := extent_add_le a b c d no
      simp only [Tree.extent]
      omega
  | .call f args => by
      have hf := extent_add_le a b c d f
      have hargs := argumentExtent_add_le a b c d args
      simp only [Tree.extent]
      omega
  | .attribute x _ => by
      have hx := extent_add_le a b c d x
      simp only [Tree.extent]
      omega
  | .index x i => by
      have hx := extent_add_le a b c d x
      have hi := extent_add_le a b c d i
      simp only [Tree.extent]
      omega

/-- The same for comparisons. -/
theorem comparisonExtent_add_le (a b c d : Nat) :
    ∀ rest, comparisonExtent (a + c) (b + d) rest ≤
      comparisonExtent a b rest + comparisonExtent c d rest
  | [] => Nat.le_refl _
  | (_, x) :: rest => by
      have hx := extent_add_le a b c d x
      have hrest := comparisonExtent_add_le a b c d rest
      simp only [comparisonExtent]
      omega

/-- The same for arguments. -/
theorem argumentExtent_add_le (a b c d : Nat) :
    ∀ xs, argumentExtent (a + c) (b + d) xs ≤ argumentExtent a b xs + argumentExtent c d xs
  | [] => Nat.le_refl _
  | x :: xs => by
      have hx := extent_add_le a b c d x
      have hxs := argumentExtent_add_le a b c d xs
      simp only [argumentExtent]
      omega

end

/-- **A tree is no higher than it is nested and linked.** -/
theorem height_le (x : Tree) : x.height ≤ x.nesting + x.links := extent_add_le 0 1 1 0 x

/-! ## §2. What the levels bound. -/

/-- The phrases that open a level are nested within `k`. -/
structure NestedWithin (inner : Inner) (k : Nat) : Prop where
  expression : ∀ {w : List Token} {x : Tree}, inner.expression w x → x.nesting ≤ k
  negation : ∀ {w : List Token} {x : Tree}, inner.negation w x → x.nesting ≤ k
  signed : ∀ {w : List Token} {x : Tree}, inner.signed w x → x.nesting ≤ k

section Phrases

variable {inner : Inner} {k : Nat} {w : List Token} {x : Tree}

/-- A chain is nested by one more than its operands, however long it is. -/
theorem nesting_chain {ω : Type} {signs : List (Symbol × ω)} {node : ω → Tree → Tree → Tree}
    {Operand : Form} (hoperand : ∀ w x, Operand w x → x.nesting ≤ k)
    (hnode : ∀ p ∈ signs, ∀ l r, (node p.2 l r).nesting = max l.nesting (r.nesting + 1))
    (h : Chain signs node Operand w x) : x.nesting ≤ k + 1 := by
  induction h with
  | single operand => exact Nat.le_succ_of_le (hoperand _ _ operand)
  | joined _ sign right ih =>
      have hright := hoperand _ _ right
      rw [hnode _ sign]
      omega

theorem nesting_comparisons {Operand : Form} (hoperand : ∀ w x, Operand w x → x.nesting ≤ k)
    {more : List (CompareOp × Tree)} (h : Operations compareSigns Operand w more) :
    comparisonExtent 0 1 more ≤ k + 1 := by
  induction h with
  | none => exact Nat.zero_le _
  | more _ operand _ ih => exact Nat.max_le.mpr ⟨Nat.succ_le_succ (hoperand _ _ operand), ih⟩

theorem nesting_arguments (hi : NestedWithin inner k) {xs : List Tree}
    (h : Arguments inner w xs) : argumentExtent 0 1 xs ≤ k + 1 := by
  induction h with
  | last argument | lastWithComma argument =>
      exact Nat.max_le.mpr ⟨Nat.succ_le_succ (hi.expression argument), Nat.zero_le _⟩
  | more argument _ ih => exact Nat.max_le.mpr ⟨Nat.succ_le_succ (hi.expression argument), ih⟩

theorem nesting_primary (hi : NestedWithin inner k) (h : Primary inner w x) :
    x.nesting ≤ k + 1 := by
  cases h with
  | parenthesised inside => exact Nat.le_succ_of_le (hi.expression inside)
  | _ => exact Nat.le_add_left 1 k

/-- What is attached to an operand nests it no more than by its own parts. -/
theorem nesting_suffix (hi : NestedWithin inner k) {v : List Token} {f : Tree → Tree}
    (h : Suffix inner v f) (hx : x.nesting ≤ k + 1) : (f x).nesting ≤ k + 1 := by
  cases h with
  | callWithout => exact Nat.max_le.mpr ⟨hx, Nat.zero_le _⟩
  | call arguments => exact Nat.max_le.mpr ⟨hx, nesting_arguments hi arguments⟩
  | attr => exact hx
  | index position => exact Nat.max_le.mpr ⟨hx, Nat.succ_le_succ (hi.expression position)⟩

theorem nesting_suffixed (hi : NestedWithin inner k) (h : Postfix inner w x) :
    x.nesting ≤ k + 1 := by
  induction h with
  | operand operand => exact nesting_primary hi operand
  | attached _ suffix ih => exact nesting_suffix hi suffix ih

theorem nesting_power (hi : NestedWithin inner k) (h : Power inner w x) : x.nesting ≤ k + 2 := by
  cases h with
  | base base => exact Nat.le_succ_of_le (nesting_suffixed hi base)
  | raised base exponent =>
      have hbase := nesting_suffixed hi base
      have hexponent := Nat.le_succ_of_le (hi.signed exponent)
      exact Nat.max_le.mpr ⟨Nat.succ_le_succ hbase, Nat.succ_le_succ hexponent⟩

theorem nesting_signed (hi : NestedWithin inner k) (h : Signed inner w x) : x.nesting ≤ k + 2 := by
  cases h with
  | unsigned power => exact nesting_power hi power
  | sign _ operand => exact Nat.succ_le_succ (Nat.le_succ_of_le (hi.signed operand))

/-- Operators but `**` make chains. -/
theorem nesting_binary {op : BinaryOp} (h : op ≠ .pow) (l r : Tree) :
    (Tree.binary op l r).nesting = max l.nesting (r.nesting + 1) := by
  simp only [Tree.nesting, Tree.extent, if_neg h, Nat.add_zero]

theorem nesting_sum (hi : NestedWithin inner k) (h : Phrase.Sum inner w x) :
    x.nesting ≤ k + 4 := by
  have hproduct : ∀ v y, Product inner v y → y.nesting ≤ k + 3 := fun _ _ =>
    nesting_chain (fun _ _ hs => nesting_signed hi hs)
      fun p hp => nesting_binary (of_mem_productSigns hp).1
  exact nesting_chain hproduct (fun p hp => nesting_binary (of_mem_sumSigns hp).1) h

theorem nesting_comparison (hi : NestedWithin inner k) (h : Comparison inner w x) :
    x.nesting ≤ k + 5 := by
  cases h with
  | single operand => exact Nat.le_succ_of_le (nesting_sum hi operand)
  | chain first others _ =>
      exact Nat.max_le.mpr ⟨Nat.succ_le_succ (nesting_sum hi first),
        nesting_comparisons (fun _ _ hs => nesting_sum hi hs) others⟩

theorem nesting_negation (hi : NestedWithin inner k) (h : Negation inner w x) :
    x.nesting ≤ k + 5 := by
  cases h with
  | comparison comparison => exact nesting_comparison hi comparison
  | not operand => exact Nat.succ_le_succ (Nat.le_add_right_of_le (hi.negation operand))

theorem nesting_disjunction (hi : NestedWithin inner k) (h : Disjunction inner w x) :
    x.nesting ≤ k + 7 := by
  have hconjunction : ∀ v y, Conjunction inner v y → y.nesting ≤ k + 6 := fun _ _ =>
    nesting_chain (fun _ _ hn => nesting_negation hi hn) fun _ _ _ _ => rfl
  exact nesting_chain hconjunction (fun _ _ _ _ => rfl) h

theorem nesting_expression (hi : NestedWithin inner k) (h : Expression inner w x) :
    x.nesting ≤ k + 8 := by
  cases h with
  | plain disjunction => exact Nat.le_succ_of_le (nesting_disjunction hi disjunction)
  | choice whenTrue condition otherwise =>
      have hyes := nesting_disjunction hi whenTrue
      have hcond := nesting_disjunction hi condition
      have hno := Nat.le_trans (hi.expression otherwise) (Nat.le_add_right k 7)
      exact Nat.max_le.mpr ⟨Nat.succ_le_succ hcond,
        Nat.max_le.mpr ⟨Nat.succ_le_succ hyes, Nat.succ_le_succ hno⟩⟩

end Phrases

/-- **Each level nests a tree by eight at most**: by a choice, `or`, `and`, comparisons, sums,
products, a power and one suffix. -/
theorem nestedWithin_phrases : ∀ n, NestedWithin (phrases n) (8 * n)
  | 0 => ⟨fun h => absurd h id, fun h => absurd h id, fun h => absurd h id⟩
  | n + 1 =>
    have hi := nestedWithin_phrases n
    ⟨fun h => nesting_expression hi h,
      fun h => Nat.le_trans (nesting_negation hi h) (Nat.add_le_add_left (by decide) _),
      fun h => Nat.le_trans (nesting_signed hi h) (Nat.add_le_add_left (by decide) _)⟩

/-! ## §3. Parsed trees. -/

/-- A tree that can be written within the levels is parsed from what is written. -/
theorem parse_of_writable {x : Tree} (h : Writable x) (hlevels : x.levels + 1 ≤ maxNesting)
    (q : Quote) : parse (x.print q) = .ok x := by
  obtain ⟨items, stop, hlex, hitems⟩ := lex_print h q
  unfold parse
  rw [hlex]
  dsimp only
  rw [parseTokens_of_fits (.of_writable h) ⟨items, stop⟩ hitems, if_pos hlevels]

theorem exists_phrase_of_parse {text : String} {x : Tree} (h : parse text = .ok x) :
    ∃ w, (phrases maxNesting).expression w x := by
  unfold parse at h
  cases hlex : lex text.toList with
  | error e =>
      rw [hlex] at h
      cases h
  | ok ts =>
      rw [hlex] at h
      exact ⟨_, phrase_of_parseTokens h⟩

/-- **The nesting limit bounds the height of a parsed tree, up to its links**: no more than 512
nodes of a way down are not the first operand of a chain. -/
theorem height_le_of_parse {text : String} {x : Tree} (h : parse text = .ok x) :
    x.nesting ≤ 8 * maxNesting ∧ x.height ≤ 8 * maxNesting + x.links := by
  obtain ⟨w, hw⟩ := exists_phrase_of_parse h
  have hnesting := (nestedWithin_phrases maxNesting).expression hw
  exact ⟨hnesting, Nat.le_trans (height_le x) (Nat.add_le_add_right hnesting _)⟩

/-- The sum of `n + 1` ones. -/
def sumOfOnes : Nat → Tree
  | 0 => .literal (.int 1)
  | n + 1 => .binary .add (sumOfOnes n) (.literal (.int 1))

theorem writable_sumOfOnes : ∀ n, Writable (sumOfOnes n)
  | 0 => .int (by decide)
  | n + 1 => .binary .add (writable_sumOfOnes n) (.int (by decide))

/-- A sum opens no level, however long it is. -/
theorem levels_sumOfOnes (n : Nat) : (sumOfOnes n).levels = 0 ∧ 6 ≤ (sumOfOnes n).rank := by
  induction n with
  | zero => decide
  | succ n ih =>
      have hleft : deepened 6 (sumOfOnes n).rank (sumOfOnes n).levels = 0 := by
        rw [deepened, if_neg (Nat.not_lt.mpr ih.2), ih.1]
      exact ⟨Nat.max_eq_zero_iff.mpr ⟨hleft, rfl⟩, Nat.le_refl 6⟩

theorem height_sumOfOnes (n : Nat) : n < (sumOfOnes n).height := by
  induction n with
  | zero => decide
  | succ n ih => exact Nat.lt_of_lt_of_le (Nat.succ_lt_succ ih) (Nat.le_max_left _ _)

theorem parse_sumOfOnes (n : Nat) : parse ((sumOfOnes n).print .double) = .ok (sumOfOnes n) := by
  refine parse_of_writable (writable_sumOfOnes n) ?_ .double
  rw [(levels_sumOfOnes n).1]
  decide

/-- A sum of three ones is three nodes high, two of them links. -/
theorem height_le_of_parse_sum :
    parse ((sumOfOnes 2).print .double) = .ok (sumOfOnes 2) ∧
      ((sumOfOnes 2).nesting ≤ 8 * maxNesting ∧
        (sumOfOnes 2).height ≤ 8 * maxNesting + (sumOfOnes 2).links) ∧
      (sumOfOnes 2).height = 3 ∧ (sumOfOnes 2).links = 2 :=
  ⟨parse_sumOfOnes 2, height_le_of_parse (parse_sumOfOnes 2), by decide, by decide⟩

/-- **The height of parsed trees is not bounded.** -/
theorem not_exists_height_le :
    ¬ ∃ limit, ∀ (text : String) (x : Tree), parse text = .ok x → x.height ≤ limit := by
  rintro ⟨limit, hlimit⟩
  have hle := hlimit _ _ (parse_sumOfOnes limit)
  exact absurd (height_sumOfOnes limit) (Nat.not_lt.mpr hle)

end Fanout.Expr
