/-
  Fanout.Proofs.Expr.Mentioned
  ────────────────────────────
  **A tree depends on the names in it and on nothing else.**

  The names in a tree (`Tree.names`) are those that stand alone as operands;
  the names of attributes and methods are none of them.

    • `AgreeOn` — two bindings say the same of some names,
    • `eval_of_agreeOn` — a tree has the same value, or fails in the same
      way, under bindings that say the same of its names,
    • `agreeOn_of_perm` — bindings with the same entries for some names,
      in whatever order and among whatever others, say the same of them,
    • `eval_noninterference` — bindings that a tree does not mention have no
      influence on it.
-/
import Fanout.Proofs.Expr.Demand

namespace Fanout.Expr

/-! ## §1. Bindings that say the same. -/

/-- Two bindings say the same of some names: each of them has the same value in both, or none in
both. -/
def AgreeOn (ns : List String) (b c : Bindings) : Prop := ∀ n ∈ ns, b.get? n = c.get? n

instance (ns : List String) (b c : Bindings) : Decidable (AgreeOn ns b c) :=
  inferInstanceAs (Decidable (∀ n ∈ ns, b.get? n = c.get? n))

variable {b c : Bindings} {ns : List String}

theorem agreeOn_append_iff {ms : List String} :
    AgreeOn (ms ++ ns) b c ↔ AgreeOn ms b c ∧ AgreeOn ns b c := List.forall_mem_append

/-- Binding another name makes no difference. -/
theorem AgreeOn.bind {n : String} (h : AgreeOn ns b c) (hn : n ∉ ns) (v : Value) :
    AgreeOn ns (b.bind n v) c := by
  intro m hm
  have hne : n ≠ m := fun e => hn (e ▸ hm)
  rw [Bindings.get?_bind, if_neg hne]
  exact h m hm

/-- **Bindings with the same entries for some names say the same of them**, in whatever order the
entries stand and whatever others stand among them. -/
theorem agreeOn_of_perm (hb : b.names.Nodup)
    (h : (b.entries.filter fun e => e.1 ∈ ns).Perm (c.entries.filter fun e => e.1 ∈ ns)) :
    AgreeOn ns b c := by
  intro n hn
  -- The other entries can be left out, and then it is the same list but for the order.
  have hkept : ∀ es : List (String × Value),
      Assoc.get? n (es.filter fun e => e.1 ∈ ns) = Assoc.get? n es :=
    fun es => Assoc.get?_filter fun v => decide_eq_true hn
  have hfilter : (Assoc.keys (b.entries.filter fun e => e.1 ∈ ns)).Nodup :=
    hb.sublist (List.filter_sublist.map Prod.fst)
  unfold Bindings.get?
  rw [← hkept b.entries, ← hkept c.entries]
  exact Assoc.get?_of_perm hfilter h

/-! ## §2. Evaluation. -/

theorem lookup_of_agreeOn {n : String} (h : AgreeOn [n] b c) : lookup b n = lookup c n := by
  unfold lookup
  rw [h n List.mem_cons_self]

mutual

/-- A tree has the same value under bindings that say the same of its names. -/
theorem eval_of_agreeOn : ∀ x : Tree, AgreeOn x.names b c → x.eval b = x.eval c
  | .literal v, _ => rfl
  | .name n, h => lookup_of_agreeOn h
  | .unary op x, h => by
      rw [Tree.eval, Tree.eval, eval_of_agreeOn x h]
  | .binary op l r, h => by
      obtain ⟨hl, hr⟩ := agreeOn_append_iff.mp h
      rw [Tree.eval, Tree.eval, eval_of_agreeOn l hl, eval_of_agreeOn r hr]
  | .both l r, h => by
      obtain ⟨hl, hr⟩ := agreeOn_append_iff.mp h
      rw [Tree.eval, Tree.eval, eval_of_agreeOn l hl, eval_of_agreeOn r hr]
  | .either l r, h => by
      obtain ⟨hl, hr⟩ := agreeOn_append_iff.mp h
      rw [Tree.eval, Tree.eval, eval_of_agreeOn l hl, eval_of_agreeOn r hr]
  | .compare x rest, h => by
      obtain ⟨hx, hrest⟩ := agreeOn_append_iff.mp h
      rw [Tree.eval, Tree.eval, eval_of_agreeOn x hx]
      exact bind_congr fun left => chainHolds_of_agreeOn rest left hrest
  | .choose cond yes no, h => by
      obtain ⟨hyes, hothers⟩ := agreeOn_append_iff.mp h
      obtain ⟨hcond, hno⟩ := agreeOn_append_iff.mp hothers
      rw [Tree.eval, Tree.eval, eval_of_agreeOn cond hcond, eval_of_agreeOn yes hyes,
        eval_of_agreeOn no hno]
  | .call f args, h => by
      obtain ⟨hf, hargs⟩ := agreeOn_append_iff.mp h
      have hcallee := eval_of_agreeOn f hf
      have hvalues := evalAll_of_agreeOn args hargs
      by_cases hmethod : ∃ x method, f = .attribute x method
      · -- Only the receiver of a method is computed: the method is no name.
        obtain ⟨x, method, rfl⟩ := hmethod
        rw [Tree.eval, Tree.eval, hvalues, eval_of_agreeOn x hf]
      · have hplain : ∀ x method, f ≠ .attribute x method :=
          fun x method hf => hmethod ⟨x, method, hf⟩
        rw [Tree.eval, Tree.eval, hvalues, hcallee]
        · exact hplain
        · exact hplain
  | .attribute x attr, h => by
      rw [Tree.eval, Tree.eval, eval_of_agreeOn x h]
  | .index x i, h => by
      obtain ⟨hx, hi⟩ := agreeOn_append_iff.mp h
      rw [Tree.eval, Tree.eval, eval_of_agreeOn x hx, eval_of_agreeOn i hi]

/-- So have several trees together. -/
theorem evalAll_of_agreeOn : ∀ xs : List Tree, AgreeOn (argumentNames xs) b c →
    evalAll b xs = evalAll c xs
  | [], _ => rfl
  | x :: xs, h => by
      obtain ⟨hx, hxs⟩ := agreeOn_append_iff.mp h
      rw [evalAll, evalAll, eval_of_agreeOn x hx, evalAll_of_agreeOn xs hxs]

/-- So has a chain of comparisons. -/
theorem chainHolds_of_agreeOn : ∀ (rest : List (CompareOp × Tree)) (left : Value),
    AgreeOn (comparisonNames rest) b c → chainHolds b left rest = chainHolds c left rest
  | [], _, _ => rfl
  | (op, x) :: rest, left, h => by
      obtain ⟨hx, hrest⟩ := agreeOn_append_iff.mp h
      rw [chainHolds, chainHolds, eval_of_agreeOn x hx]
      refine bind_congr fun right => bind_congr fun holds => ?_
      rw [chainHolds_of_agreeOn rest right hrest]

end

/-- **Bindings that a tree does not mention have no influence on it.**  Under bindings that say the
same of its names it has the same value, or fails in the same way with the same message.  Any name
that is none of them, be it that of an attribute or a method in the tree, can be bound to any
value; and only the entries for its names count, not their order or what stands among them. -/
theorem eval_noninterference {x : Tree} (h : AgreeOn x.names b c) :
    x.eval b = x.eval c ∧
      (∀ n v, n ∉ x.names → x.eval (b.bind n v) = x.eval c) ∧
        ∀ d : Bindings, b.names.Nodup →
          (b.entries.filter fun e => e.1 ∈ x.names).Perm
            (d.entries.filter fun e => e.1 ∈ x.names) → x.eval d = x.eval c := by
  have hbc := eval_of_agreeOn x h
  refine ⟨hbc, fun n v hn => eval_of_agreeOn x (h.bind hn v), fun d hb hentries => ?_⟩
  exact (eval_of_agreeOn x (agreeOn_of_perm hb hentries)).symm.trans hbc

/-- A text in capitals if there is one, `s and s.upper()`. -/
def capitals : Tree := .both (.name "s") (.call (.attribute (.name "s") "upper") [])

/-- What is bound to the name of the method does not count. -/
theorem eval_noninterference_capitals :
    AgreeOn capitals.names ⟨[("s", .str "a")]⟩ ⟨[("upper", .none), ("s", .str "a")]⟩ ∧
      capitals.eval ⟨[("s", .str "a")]⟩ = capitals.eval ⟨[("upper", .none), ("s", .str "a")]⟩ ∧
        capitals.eval ⟨[("s", .str "a"), ("upper", .bool true)]⟩ =
          capitals.eval ⟨[("upper", .none), ("s", .str "a")]⟩ := by
  have hagree : AgreeOn capitals.names ⟨[("s", .str "a")]⟩
      ⟨[("upper", .none), ("s", .str "a")]⟩ := by decide
  obtain ⟨hsame, hbind, -⟩ := eval_noninterference hagree
  exact ⟨hagree, hsame, hbind "upper" (.bool true) (by decide)⟩

end Fanout.Expr
