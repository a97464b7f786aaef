/-
  Fanout.Proofs.Forward
  ─────────────────────
  **Names that are used before they are declared.**

  Declarations are resolved in order.  A name that is new to the bindings
  stays without a value until its own declaration has been resolved, so an
  expression that asks for it earlier has no value either:

    • `NewNames.bind` — resolving the first declaration leaves the names of
      the others new,
    • `NewNames.fails_lookup` — a new name has no value,
    • `fails_of_forward` — forward references and self-references fail.
-/
import Fanout.Derived
import Fanout.Proofs.Expr.Demand
import Fanout.Proofs.Expr.RoundTrip

namespace Fanout

open Fanout.Expr

/-! ## §1. New names. -/

/-- Declarations of names that are new to the bindings: each name is declared once, nothing is
bound to it, and no function is reached by it. -/
structure NewNames (b : Bindings) (ds : List Derived) : Prop where
  /-- No name is declared twice. -/
  nodup : (ds.map Derived.name).Nodup
  /-- Nothing is bound to the names. -/
  unbound : ∀ d ∈ ds, b.get? d.name = none
  /-- No function has one of the names. -/
  noFunction : ∀ d ∈ ds, Builtin.implicit? d.name = none

variable {b : Bindings}

/-- **The names behind a declaration stay new when it is resolved.** -/
theorem NewNames.bind {d : Derived} {ds : List Derived} (h : NewNames b (d :: ds)) (v : Value) :
    NewNames (b.bind d.name v) ds := by
  have hnodup := h.nodup
  rw [List.map_cons, List.nodup_cons] at hnodup
  refine ⟨hnodup.2, fun e he => ?_, fun e he => h.noFunction e (List.mem_cons_of_mem d he)⟩
  have hne : ¬ d.name = e.name := fun heq => hnodup.1 (heq ▸ List.mem_map_of_mem he)
  rw [Bindings.get?_bind, if_neg hne]
  exact h.unbound e (List.mem_cons_of_mem d he)

/-- A new name has no value. -/
theorem NewNames.fails_lookup {ds : List Derived} (h : NewNames b ds) {d : Derived} (hd : d ∈ ds) :
    Fails (lookup b d.name) := by
  unfold lookup
  rw [h.unbound d hd, h.noFunction d hd]
  exact ⟨_, rfl⟩

/-! ## §2. Forward references. -/

/-- **Forward references and self-references fail.**  The names of all declarations are new, and
the expression of the declaration `d` leaves nothing out.  If the name of `d` or of a later
declaration is in it, then resolving ends at `d` or before: all declarations before the failing
one have values, and its expression has none. -/
theorem fails_of_forward {before behind : List Derived} {d later : Derived} {t : Tree}
    (hnew : NewNames b (before ++ d :: behind)) (hparse : parse d.expression = .ok t)
    (heager : Eager t) (hlater : later ∈ d :: behind) (hname : later.name ∈ t.names) :
    ∃ done failing rest c cause, before ++ d :: behind = done ++ failing :: rest ∧
      done.length ≤ before.length ∧ resolveDerived b done = (c, none) ∧
        evaluate failing.expression c = .error cause ∧
          resolveDerived b (before ++ d :: behind) =
            (c, some ⟨failing.name, failing.line, cause⟩) := by
  induction before generalizing b with
  | nil =>
      obtain ⟨cause, hcause⟩ := (heager.demands hname).fails (hnew.fails_lookup hlater)
      have hevaluate : evaluate d.expression b = .error cause := by
        unfold evaluate
        rw [hparse]
        exact hcause
      refine ⟨[], d, behind, b, cause, rfl, Nat.le_refl 0, rfl, hevaluate, ?_⟩
      rw [List.nil_append, resolveDerived, hevaluate]
  | cons first before ih =>
      cases hfirst : evaluate first.expression b with
      | error cause =>
          refine ⟨[], first, before ++ d :: behind, b, cause, rfl, Nat.zero_le _, rfl, hfirst, ?_⟩
          rw [List.cons_append, resolveDerived, hfirst]
      | ok v =>
          obtain ⟨done, failing, rest, c, cause, hsplit, hlength, hdone, hcause, hall⟩ :=
            ih (hnew.bind (bound v))
          refine ⟨first :: done, failing, rest, c, cause, ?_, Nat.succ_le_succ hlength, ?_, hcause,
            ?_⟩
          · rw [List.cons_append, hsplit, List.cons_append]
          · rw [resolveDerived, hfirst]
            exact hdone
          · rw [List.cons_append, resolveDerived, hfirst]
            exact hall

/-- Declarations of which the second one counts from the end by the value of the third one. -/
def countsFromLater : List Derived :=
  [⟨"first", "'a'", 3⟩, ⟨"same", "s.upper()[0 - last] == first", 4⟩, ⟨"last", "1", 5⟩]

/-- The expression of the second one. -/
def sameTree : Tree :=
  .compare
    (.index (.call (.attribute (.name "s") "upper") [])
      (.binary .sub (.literal (.int 0)) (.name "last")))
    [(.eq, .name "first")]

theorem parse_sameTree : parse "s.upper()[0 - last] == first" = .ok sameTree := by
  have hupper : Writable (.attribute (.name "s") "upper") :=
    .attr (.name ⟨by decide, by decide⟩) ⟨by decide, by decide⟩
  have hcall : Writable (.call (.attribute (.name "s") "upper") []) :=
    .call hupper fun x hx => absurd hx List.not_mem_nil
  have hposition : Writable (.binary .sub (.literal (.int 0)) (.name "last")) :=
    .binary .sub (.int (by decide)) (.name ⟨by decide, by decide⟩)
  have hwritable : Writable sameTree := by
    refine .compare (.index hcall hposition) (fun p hp => ?_) (List.cons_ne_nil _ _)
    rw [List.mem_singleton.mp hp]
    exact .name ⟨by decide, by decide⟩
  -- The text has the tokens of the tree.
  have htokens : (lex "s.upper()[0 - last] == first".toList).map (fun ts => tokensOf ts.items) =
      .ok sameTree.tokens := by decide +kernel
  unfold parse
  cases hlex : lex "s.upper()[0 - last] == first".toList with
  | error fault =>
      rw [hlex] at htokens
      cases htokens
  | ok ts =>
      rw [hlex] at htokens
      have hfits := parseTokens_of_fits (.of_writable hwritable) ts (Except.ok.inj htokens)
      dsimp only
      rw [hfits]
      rfl

/-- They cannot be resolved, though the third one could. -/
theorem fails_of_forward_index :
    NewNames (Bindings.empty.bind "s" (.str "ab")) countsFromLater ∧
      parse "s.upper()[0 - last] == first" = .ok sameTree ∧
      Eager sameTree ∧ "last" ∈ sameTree.names ∧
      ∃ done failing rest c cause, countsFromLater = done ++ failing :: rest ∧ done.length ≤ 1 ∧
        resolveDerived (Bindings.empty.bind "s" (.str "ab")) done = (c, none) ∧
          evaluate failing.expression c = .error cause ∧
            resolveDerived (Bindings.empty.bind "s" (.str "ab")) countsFromLater =
              (c, some ⟨failing.name, failing.line, cause⟩) := by
  have hnew : NewNames (Bindings.empty.bind "s" (.str "ab"))
      ([⟨"first", "'a'", 3⟩] ++
        ⟨"same", "s.upper()[0 - last] == first", 4⟩ :: [⟨"last", "1", 5⟩]) :=
    ⟨by decide, by decide, by decide⟩
  have hparse := parse_sameTree
  have hcall : Eager (.call (.attribute (.name "s") "upper") []) :=
    .call (.attr (.name "s") "upper") fun x hx => absurd hx List.not_mem_nil
  have hindex := Eager.index hcall (.binary .sub (.literal (.int 0)) (.name "last"))
  have heager : Eager sameTree := by
    refine .compare hindex (fun p hp => ?_) (Nat.le_refl 1)
    rw [List.mem_singleton.mp hp]
    exact .name "first"
  have hlast : (⟨"last", "1", 5⟩ : Derived) ∈
      [⟨"same", "s.upper()[0 - last] == first", 4⟩, ⟨"last", "1", 5⟩] := by decide
  have hname : "last" ∈ sameTree.names := by decide
  exact ⟨hnew, hparse, heager, hname, fails_of_forward hnew hparse heager hlast hname⟩

end Fanout
