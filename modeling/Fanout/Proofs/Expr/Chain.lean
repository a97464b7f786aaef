/-
  Fanout.Proofs.Expr.Chain
  ────────────────────────
  **A chain of comparisons is the conjunction of its neighbours.**

  A chain hands the value of every operand on to the next comparison and
  ends at the first one that does not hold.  The conjunction computes the
  operands in the middle twice, which makes no difference, and `and` ends
  where the chain does:

    • `neighbours`, `conjunction` — the comparisons of a chain one by one, and
      trees joined by `and` from the left,
    • `cases_compare` — a first comparison that holds can be taken off a
      chain, any other one is its outcome,
    • `eval_conjunction_of_settled` — what is not true stays as it is,
      whatever is joined to it,
    • `eval_compare_eq_conjunction` — chain and conjunction come to the same,
      and the first comparison that does not hold decides.
-/
import Fanout.Expr.Meaning

namespace Fanout.Expr

/-- The comparisons of a chain behind the operand `first`, each with its two operands. -/
def neighbours (first : Tree) : List (CompareOp × Tree) → List Tree
  | [] => []
  | (op, t) :: rest => .compare first [(op, t)] :: neighbours t rest

/-- Trees joined by `and`, from the left. -/
def conjunction (first : Tree) (others : List Tree) : Tree := others.foldl .both first

/-- An outcome behind which `and` computes nothing more. -/
def Settled (o : Outcome Value) : Prop := ∀ v, o = .ok v → v.isTruthy = false

variable {b : Bindings}

/-! ## §1. Chains. -/

/-- One step of a chain. -/
theorem eval_compare_cons (l : Tree) (op : CompareOp) (r : Tree) (rest : List (CompareOp × Tree)) :
    (Tree.compare l ((op, r) :: rest)).eval b =
      l.eval b >>= fun v => r.eval b >>= fun w => comparison op v w >>= fun holds =>
        if holds then chainHolds b w rest else .ok (.bool false) := by
  rw [Tree.eval]
  simp only [chainHolds]

/-- The outcome of a comparison of two operands that have values. -/
theorem eval_compare_of_values {l r : Tree} {v w : Value} (hl : l.eval b = .ok v)
    (hr : r.eval b = .ok w) (op : CompareOp) (rest : List (CompareOp × Tree)) :
    (Tree.compare l ((op, r) :: rest)).eval b = comparison op v w >>= fun holds =>
      if holds then chainHolds b w rest else .ok (.bool false) := by
  rw [eval_compare_cons, hl, hr]
  rfl

/-- **A single comparison holds, and then it can be taken off a chain, or it is what the chain comes
to.** -/
theorem cases_compare (l : Tree) (op : CompareOp) (r : Tree) :
    ((Tree.compare l [(op, r)]).eval b = .ok (.bool true) ∧
        ∀ rest, (Tree.compare l ((op, r) :: rest)).eval b = (Tree.compare r rest).eval b) ∨
      (Settled ((Tree.compare l [(op, r)]).eval b) ∧
        ∀ rest, (Tree.compare l ((op, r) :: rest)).eval b = (Tree.compare l [(op, r)]).eval b) := by
  have hfails : ∀ e : EvalError, Settled (.error e) := fun e v h => by cases h
  cases hl : l.eval b with
  | error e =>
      simp only [eval_compare_cons, hl]
      exact .inr ⟨hfails e, fun rest => rfl⟩
  | ok v =>
  cases hr : r.eval b with
  | error e =>
      simp only [eval_compare_cons, hl, hr]
      exact .inr ⟨hfails e, fun rest => rfl⟩
  | ok w =>
  simp only [eval_compare_of_values hl hr]
  cases hop : comparison op v w with
  | error e => exact .inr ⟨hfails e, fun rest => rfl⟩
  | ok holds =>
  cases holds with
  | false => exact .inr ⟨fun v h => by cases h; rfl, fun rest => rfl⟩
  | true =>
      refine .inl ⟨by rw [chainHolds]; rfl, fun rest => ?_⟩
      rw [Tree.eval, hr]
      rfl

/-! ## §2. Conjunctions. -/

theorem eval_both_of_true {l : Tree} (h : l.eval b = .ok (.bool true)) (r : Tree) :
    (Tree.both l r).eval b = r.eval b := by
  rw [Tree.eval, h]
  rfl

theorem eval_both_of_settled {l : Tree} (h : Settled (l.eval b)) (r : Tree) :
    (Tree.both l r).eval b = l.eval b := by
  rw [Tree.eval]
  cases hl : l.eval b with
  | error e => rfl
  | ok v =>
      show (if v.isTruthy then r.eval b else .ok v) = _
      rw [h v hl]
      rfl

/-- Only the outcome of the first part matters. -/
theorem eval_conjunction_congr {l m : Tree} (h : l.eval b = m.eval b) (others : List Tree) :
    (conjunction l others).eval b = (conjunction m others).eval b := by
  induction others generalizing l m with
  | nil => exact h
  | cons r others ih =>
      refine ih ?_
      rw [Tree.eval, Tree.eval, h]

/-- **What is not true stays as it is**, whatever is joined to it. -/
theorem eval_conjunction_of_settled {l : Tree} (h : Settled (l.eval b)) (others : List Tree) :
    (conjunction l others).eval b = l.eval b := by
  induction others with
  | nil => rfl
  | cons r others ih => exact (eval_conjunction_congr (eval_both_of_settled h r) others).trans ih

/-! ## §3. Chains as conjunctions. -/

/-- A chain comes to the same as the conjunction of its comparisons. -/
theorem eval_conjunction_neighbours (l : Tree) (op : CompareOp) (r : Tree)
    (rest : List (CompareOp × Tree)) :
    (conjunction (.compare l [(op, r)]) (neighbours r rest)).eval b =
      (Tree.compare l ((op, r) :: rest)).eval b := by
  induction rest generalizing l op r with
  | nil => rfl
  | cons p rest ih =>
      obtain ⟨op', r'⟩ := p
      rcases cases_compare (b := b) l op r with ⟨htrue, hchain⟩ | ⟨hsettled, hchain⟩
      · -- The first comparison can be taken off both sides.
        have hboth := eval_both_of_true htrue (.compare r [(op', r')])
        rw [hchain, ← ih r op' r']
        exact eval_conjunction_congr hboth (neighbours r' rest)
      · rw [hchain]
        exact eval_conjunction_of_settled hsettled _

/-- The first comparison that does not hold is what every chain comes to that begins like this. -/
theorem eval_compare_of_holding {before : List (CompareOp × Tree)} {first c : Tree}
    {holding : List Tree} (hbefore : neighbours first before = holding ++ [c])
    (hold : ∀ d ∈ holding, d.eval b = .ok (.bool true)) (hc : c.eval b ≠ .ok (.bool true))
    (after : List (CompareOp × Tree)) :
    (Tree.compare first (before ++ after)).eval b = c.eval b := by
  induction before generalizing first holding with
  | nil => cases holding <;> cases hbefore
  | cons p before ih =>
      obtain ⟨op, t⟩ := p
      have hcases := cases_compare (b := b) first op t
      cases holding with
      | nil =>
          obtain ⟨rfl, -⟩ := List.cons.inj hbefore
          rcases hcases with ⟨htrue, -⟩ | ⟨-, hchain⟩
          · exact absurd htrue hc
          · exact hchain (before ++ after)
      | cons d holding =>
          obtain ⟨rfl, hrest⟩ := List.cons.inj hbefore
          have htrue := hold _ List.mem_cons_self
          rcases hcases with ⟨-, hchain⟩ | ⟨hsettled, -⟩
          · exact (hchain _).trans (ih hrest fun d hd => hold d (List.mem_cons_of_mem _ hd))
          · cases hsettled _ htrue

/-- **A chain of comparisons is the conjunction of the comparisons of its neighbours**: it has the
same truth value or fails in the same way.  Behind the first of them that does not hold nothing is
computed: whatever operands follow, the outcome is that of this comparison. -/
theorem eval_compare_eq_conjunction (b : Bindings) (first : Tree) (op : CompareOp) (second : Tree)
    (rest : List (CompareOp × Tree)) :
    (Tree.compare first ((op, second) :: rest)).eval b =
        (conjunction (.compare first [(op, second)]) (neighbours second rest)).eval b ∧
      ∀ before holding c, neighbours first before = holding ++ [c] →
        (∀ d ∈ holding, d.eval b = .ok (.bool true)) → c.eval b ≠ .ok (.bool true) →
        ∀ after, (Tree.compare first (before ++ after)).eval b = c.eval b :=
  ⟨(eval_conjunction_neighbours first op second rest).symm,
    fun _ _ _ hbefore hold hc => eval_compare_of_holding hbefore hold hc⟩

/-- In `1 < 3 < 2 < missing` the second comparison is false, and the name, which has no value, is
not asked for. -/
theorem eval_compare_missing :
    (Tree.name "missing").eval .empty = .error (.undefinedName "missing") ∧
      (Tree.compare (.literal (.int 1)) ([(.lt, .literal (.int 3)), (.lt, .literal (.int 2))] ++
        [(.lt, .name "missing")])).eval .empty = .ok (.bool false) := by
  have hbefore : neighbours (.literal (.int 1)) [(.lt, .literal (.int 3)), (.lt, .literal (.int 2))]
      = [.compare (.literal (.int 1)) [(.lt, .literal (.int 3))]] ++
        [.compare (.literal (.int 3)) [(.lt, .literal (.int 2))]] := rfl
  have hfalse : (Tree.compare (.literal (.int 3)) [(.lt, .literal (.int 2))]).eval .empty =
      .ok (.bool false) := by rfl
  have hholds : (Tree.compare (.literal (.int 1)) [(.lt, .literal (.int 3))]).eval .empty =
      .ok (.bool true) := by rfl
  refine ⟨rfl, ?_⟩
  rw [← hfalse]
  refine (eval_compare_eq_conjunction .empty _ .lt (.literal (.int 3)) []).2 _ _ _ hbefore ?_ ?_ _
  · intro d hd
    rw [List.mem_singleton.mp hd]
    exact hholds
  · rw [hfalse]
    intro h
    cases h

end Fanout.Expr
