/-
  Fanout.Proofs.Derived
  ─────────────────────
  **Resolving declarations one after the other.**

    • `resolveDerived_append` — declarations can be resolved in two parts,
    • `exists_of_resolveDerived_error` — a failure is that of the first
      declaration whose expression has no value,
    • `exists_of_resolveDerived_ok` — after a success every declared name is
      bound to the value of its expression under what was bound before,
    • `exists_get?_resolveDerived` — and to some value at the end,
    • `get?_resolveDerived_of_not_mem` — no other name changes.
-/
import Fanout.Derived

namespace Fanout

open Fanout.Expr

/-! ## §1. Parts. -/

/-- **Declarations can be resolved in two parts**, the second only after a success of the
first. -/
theorem resolveDerived_append (ds more : List Derived) :
    ∀ b : Bindings,
      resolveDerived b (ds ++ more) =
        match resolveDerived b ds with
        | (c, none) => resolveDerived c more
        | (c, some e) => (c, some e) := by
  induction ds with
  | nil => intro b; rfl
  | cons d ds ih =>
      intro b
      rw [List.cons_append, resolveDerived, resolveDerived]
      cases evaluate d.expression b with
      | error cause => rfl
      | ok v => exact ih (b.bind d.name (bound v))

/-! ## §2. Failure. -/

/-- **A failure is that of the first declaration without a value.** -/
theorem exists_of_resolveDerived_error (ds : List Derived) :
    ∀ {b c : Bindings} {e : DerivedError}, resolveDerived b ds = (c, some e) →
      ∃ before d behind cause, ds = before ++ d :: behind ∧
        resolveDerived b before = (c, none) ∧
        evaluate d.expression c = .error cause ∧ e = ⟨d.name, d.line, cause⟩ := by
  induction ds with
  | nil => intro b c e h; cases h
  | cons d ds ih =>
      intro b c e h
      rw [resolveDerived] at h
      cases hd : evaluate d.expression b with
      | error cause =>
          rw [hd] at h
          obtain ⟨rfl, rfl⟩ : b = c ∧ ⟨d.name, d.line, cause⟩ = e := by simpa using h
          exact ⟨[], d, ds, cause, rfl, rfl, hd, rfl⟩
      | ok v =>
          -- The declaration has a value: the failure is one of the others.
          rw [hd] at h
          obtain ⟨before, d', behind, cause, rfl, hbefore, hcause, he⟩ := ih h
          refine ⟨d :: before, d', behind, cause, rfl, ?_, hcause, he⟩
          rw [resolveDerived, hd]
          exact hbefore

/-! ## §3. Success. -/

/-- A name that is not declared keeps its value, also up to a failure. -/
theorem get?_resolveDerived_of_not_mem {name : String} (ds : List Derived) :
    ∀ b : Bindings, name ∉ ds.map Derived.name →
      (resolveDerived b ds).1.get? name = b.get? name := by
  induction ds with
  | nil => intro b _; rfl
  | cons d ds ih =>
      intro b h
      rw [List.map_cons, List.mem_cons, not_or] at h
      have hne : ¬ d.name = name := fun e => h.1 e.symm
      rw [resolveDerived]
      cases evaluate d.expression b with
      | error cause => rfl
      | ok v => rw [ih _ h.2, Bindings.get?_bind, if_neg hne]

/-- **After a success a name that is declared once is bound to the value of its expression**
under the bindings that the declarations before it have left. -/
theorem exists_of_resolveDerived_ok {before behind : List Derived} {d : Derived} {b c : Bindings}
    (h : resolveDerived b (before ++ d :: behind) = (c, none))
    (hd : d.name ∉ behind.map Derived.name) :
    ∃ mid v, resolveDerived b before = (mid, none) ∧ evaluate d.expression mid = .ok v ∧
      c.get? d.name = some (bound v) := by
  rw [resolveDerived_append] at h
  rcases hbefore : resolveDerived b before with ⟨mid, failure⟩
  rw [hbefore] at h
  cases failure with
  | some e => cases h
  | none =>
      have hrest : resolveDerived mid (d :: behind) = (c, none) := h
      rw [resolveDerived] at hrest
      cases hv : evaluate d.expression mid with
      | error cause =>
          rw [hv] at hrest
          cases hrest
      | ok v =>
          rw [hv] at hrest
          refine ⟨mid, v, rfl, hv, ?_⟩
          -- What is bound here stays: no later declaration has the name.
          have hkeep := get?_resolveDerived_of_not_mem behind (mid.bind d.name (bound v)) hd
          dsimp only at hrest
          rw [hrest, Bindings.get?_bind, if_pos rfl] at hkeep
          exact hkeep

/-- After a success every declared name is bound to a computed value. -/
theorem exists_get?_resolveDerived {ds : List Derived} :
    ∀ {b c : Bindings}, resolveDerived b ds = (c, none) → ∀ {d : Derived}, d ∈ ds →
      ∃ v, c.get? d.name = some (bound v) := by
  induction ds with
  | nil =>
      intro b c _ d hd
      cases hd
  | cons first ds ih =>
      intro b c h d hd
      by_cases hagain : d.name ∈ ds.map Derived.name
      · -- a later declaration of the name counts
        obtain ⟨later, hlater, hname⟩ := List.mem_map.mp hagain
        rw [resolveDerived] at h
        split at h
        · rw [← hname]
          exact ih h hlater
        · cases h
      · obtain rfl : d = first := by
          rcases List.mem_cons.mp hd with rfl | hd
          · rfl
          · exact absurd (List.mem_map_of_mem hd) hagain
        have hsplit : resolveDerived b ([] ++ d :: ds) = (c, none) := h
        obtain ⟨-, v, -, -, hget⟩ := exists_of_resolveDerived_ok hsplit hagain
        exact ⟨v, hget⟩

end Fanout
