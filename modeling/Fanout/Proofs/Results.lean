/-
  Fanout.Proofs.Results
  ─────────────────────
  **What declarations leave in the bindings.**

  Declarations are resolved in order, so after the first `i` of them the
  bindings are the first ones with `i` results put in:

    • `Computes` — values of declarations, each of them computed under the
      bindings with the results of those before it,
    • `FailsAt` — the place of a declaration that has no value then, though
      all those before it have,
    • `resolveDerived_eq_ok_iff` — a success puts in all results,
    • `resolveDerived_eq_error_iff` — a failure leaves those before it,
    • `FailsAt.unique` — and there is one place for it at most,
    • `Extends` — what the bindings are with results put in, name by name,
    • `resolveDerived_sequential` — all of it about one run.
-/
import Fanout.Proofs.Bindings
import Fanout.Proofs.Derived

namespace Fanout

open Fanout.Expr

/-! ## §1. Results. -/

/-- Declared names with values as they are bound. -/
def results (ds : List Derived) (vs : List Value) : List (String × Value) :=
  (ds.map Derived.name).zip (vs.map bound)

/-- The bindings with the results of declarations put in, one after the other. -/
def Bindings.withResults (b : Bindings) (ds : List Derived) (vs : List Value) : Bindings :=
  b.bindAll (results ds vs)

/-- The values of declarations, each of them computed under the bindings with the results of
those before it. -/
structure Computes (b : Bindings) (ds : List Derived) (vs : List Value) : Prop where
  /-- Every declaration has a value. -/
  length_eq : vs.length = ds.length
  /-- It is that of its expression, after those before it. -/
  evaluate_eq : ∀ (i : Nat) (d : Derived) (v : Value), ds[i]? = some d → vs[i]? = some v →
    evaluate d.expression (b.withResults (ds.take i) (vs.take i)) = .ok v

/-- The declaration at the place `i` has no value, though all those before it have. -/
def FailsAt (b : Bindings) (ds : List Derived) (i : Nat) : Prop :=
  ∃ d vs cause, ds[i]? = some d ∧ Computes b (ds.take i) vs ∧
    evaluate d.expression (b.withResults (ds.take i) vs) = .error cause

variable {b c : Bindings} {d : Derived} {ds : List Derived} {v : Value} {vs : List Value}

/-! ## §2. Putting results in. -/

theorem results_take (ds : List Derived) (vs : List Value) (i : Nat) :
    results (ds.take i) (vs.take i) = (results ds vs).take i := by
  unfold results
  rw [List.map_take, List.map_take]
  exact List.take_zipWith.symm

theorem results_drop (ds : List Derived) (vs : List Value) (i : Nat) :
    results (ds.drop i) (vs.drop i) = (results ds vs).drop i := by
  unfold results
  rw [List.map_drop, List.map_drop]
  exact List.drop_zipWith.symm

/-- Results can be put in in two parts. -/
theorem withResults_take_drop (b : Bindings) (ds : List Derived) (vs : List Value) (i : Nat) :
    (b.withResults (ds.take i) (vs.take i)).withResults (ds.drop i) (vs.drop i) =
      b.withResults ds vs := by
  unfold Bindings.withResults
  rw [results_take, results_drop, ← Bindings.bindAll_append, List.take_append_drop]

/-- The names of results are declared. -/
theorem map_fst_results (h : vs.length = ds.length) :
    (results ds vs).map Prod.fst = ds.map Derived.name :=
  List.map_fst_zip (by simp [h])

/-- What is declared at a place has its result there. -/
theorem mem_results {i : Nat} (hd : ds[i]? = some d) (hv : vs[i]? = some v) :
    (d.name, bound v) ∈ results ds vs := by
  refine List.mem_of_getElem? (i := i) (List.getElem?_zip_eq_some.mpr ⟨?_, ?_⟩)
  · rw [List.getElem?_map, hd]
    rfl
  · rw [List.getElem?_map, hv]
    rfl

/-- A name has the same value and the same place in the bindings `c` as in `b`. -/
structure Keeps (name : String) (b c : Bindings) : Prop where
  /-- The value, or that there is none. -/
  value : c.get? name = b.get? name
  /-- The place, or that there is none. -/
  place : ∀ k : Nat, c.names[k]? = some name ↔ b.names[k]? = some name

/-- A name that is not declared keeps its value and its place when results are put in. -/
theorem keeps_withResults {name : String} (b : Bindings) (h : vs.length = ds.length)
    (hname : name ∉ ds.map Derived.name) : Keeps name b (b.withResults ds vs) := by
  rw [← map_fst_results h] at hname
  exact ⟨Bindings.get?_bindAll_of_not_mem _ b hname,
    fun k => Bindings.getElem?_names_bindAll _ b k hname⟩

/-- The bindings `c` are `b` with the results of declarations put in: each declared name has its
result, and everything else is as it was. -/
structure Extends (b : Bindings) (ds : List Derived) (vs : List Value) (c : Bindings) : Prop where
  /-- Nothing is done but to put the results in. -/
  eq : c = b.withResults ds vs
  /-- Every declared name is bound to its result. -/
  result : ∀ (i : Nat) (d : Derived) (v : Value), ds[i]? = some d → vs[i]? = some v →
    c.get? d.name = some (bound v)
  /-- A name that is not declared keeps its value and its place. -/
  others : ∀ name, name ∉ ds.map Derived.name → Keeps name b c
  /-- What the first declarations leave stays, as far as no later one declares it. -/
  earlier : ∀ i name, name ∉ (ds.drop i).map Derived.name →
    Keeps name (b.withResults (ds.take i) (vs.take i)) c
  /-- Declared names that are new stand behind the others, in order. -/
  names : c.names = b.names ++ (ds.map Derived.name).filter fun n => n ∉ b.names

/-- **Results of names that are declared once are put in and change nothing else.** -/
theorem extends_withResults (b : Bindings) (hnames : (ds.map Derived.name).Nodup)
    (h : vs.length = ds.length) : Extends b ds vs (b.withResults ds vs) := by
  have hresults : ((results ds vs).map Prod.fst).Nodup := by
    rw [map_fst_results h]
    exact hnames
  refine ⟨rfl, ?result, fun name => keeps_withResults b h, ?earlier, ?names⟩
  case result =>
    intro i d v hd hv
    exact Bindings.get?_bindAll_of_mem _ b hresults (mem_results hd hv)
  case earlier =>
    intro i name hname
    rw [← withResults_take_drop b ds vs i]
    exact keeps_withResults _ (by rw [List.length_drop, List.length_drop, h]) hname
  case names =>
    rw [← map_fst_results h]
    exact Bindings.names_bindAll_filter _ b hresults

/-! ## §3. Values in order. -/

theorem computes_nil_iff : Computes b [] vs ↔ vs = [] :=
  ⟨fun h => List.length_eq_zero_iff.mp h.length_eq, by rintro rfl; exact ⟨rfl, by simp⟩⟩

/-- The first declaration has the value of its expression, and the others have theirs when the
first result is put in. -/
theorem computes_cons_iff :
    Computes b (d :: ds) (v :: vs) ↔
      evaluate d.expression b = .ok v ∧ Computes (b.bind d.name (bound v)) ds vs := by
  constructor
  · intro h
    refine ⟨h.evaluate_eq 0 d v rfl rfl, Nat.succ.inj h.length_eq, fun i e w he hw => ?_⟩
    exact h.evaluate_eq (i + 1) e w he hw
  · intro h
    refine ⟨congrArg Nat.succ h.2.length_eq, fun i e w he hw => ?_⟩
    cases i with
    | zero =>
        obtain rfl : d = e := Option.some.inj he
        obtain rfl : v = w := Option.some.inj hw
        exact h.1
    | succ i => exact h.2.evaluate_eq i e w he hw

theorem Computes.exists_cons (h : Computes b (d :: ds) vs) :
    ∃ v rest, vs = v :: rest ∧ evaluate d.expression b = .ok v ∧
      Computes (b.bind d.name (bound v)) ds rest := by
  cases vs with
  | nil => exact absurd h.length_eq (by simp)
  | cons v rest => exact ⟨v, rest, rfl, computes_cons_iff.mp h⟩

/-- **Resolving succeeds exactly when all declarations have values**, and then it puts in their
results. -/
theorem resolveDerived_eq_ok_iff :
    resolveDerived b ds = (c, none) ↔ ∃ vs, Computes b ds vs ∧ c = b.withResults ds vs := by
  induction ds generalizing b with
  | nil =>
      constructor
      · intro h
        obtain rfl : b = c := congrArg Prod.fst h
        exact ⟨[], computes_nil_iff.mpr rfl, rfl⟩
      · rintro ⟨vs, hvs, rfl⟩
        obtain rfl := computes_nil_iff.mp hvs
        rfl
  | cons d ds ih =>
      rw [resolveDerived]
      constructor
      · intro h
        cases hd : evaluate d.expression b with
        | error cause =>
            rw [hd] at h
            cases h
        | ok v =>
            rw [hd] at h
            obtain ⟨vs, hvs, rfl⟩ := ih.mp h
            exact ⟨v :: vs, computes_cons_iff.mpr ⟨hd, hvs⟩, rfl⟩
      · rintro ⟨vs, hvs, rfl⟩
        obtain ⟨v, rest, rfl, hd, hrest⟩ := hvs.exists_cons
        rw [hd]
        exact ih.mpr ⟨rest, hrest, rfl⟩

/-! ## §4. The first one without a value. -/

/-- **Resolving fails exactly at a declaration without a value**, and then it puts in the results
of those before it. -/
theorem resolveDerived_eq_error_iff {e : DerivedError} :
    resolveDerived b ds = (c, some e) ↔
      ∃ i d vs cause, ds[i]? = some d ∧ Computes b (ds.take i) vs ∧
        c = b.withResults (ds.take i) vs ∧ evaluate d.expression c = .error cause ∧
          e = ⟨d.name, d.line, cause⟩ := by
  constructor
  · intro h
    obtain ⟨before, d, behind, cause, rfl, hbefore, hcause, he⟩ :=
      exists_of_resolveDerived_error ds h
    obtain ⟨vs, hvs, hc⟩ := resolveDerived_eq_ok_iff.mp hbefore
    have hsplit : (before ++ d :: behind).take before.length = before := List.take_left
    refine ⟨before.length, d, vs, cause, ?_, hsplit.symm ▸ hvs, hsplit.symm ▸ hc, hcause, he⟩
    rw [List.getElem?_append_right (Nat.le_refl _), Nat.sub_self, List.getElem?_cons_zero]
  · rintro ⟨i, d, vs, cause, hd, hvs, hc, hcause, rfl⟩
    obtain ⟨hi, hget⟩ := List.getElem?_eq_some_iff.mp hd
    have hsplit : ds = ds.take i ++ d :: ds.drop (i + 1) := by
      rw [← hget, ← List.drop_eq_getElem_cons hi, List.take_append_drop]
    rw [hsplit, resolveDerived_append, resolveDerived_eq_ok_iff.mpr ⟨vs, hvs, hc⟩]
    dsimp only
    rw [resolveDerived, hcause]

theorem FailsAt.exists_error {i : Nat} (h : FailsAt b ds i) :
    ∃ c e, resolveDerived b ds = (c, some e) := by
  obtain ⟨d, vs, cause, hd, hvs, hcause⟩ := h
  exact ⟨_, _, resolveDerived_eq_error_iff.mpr ⟨i, d, vs, cause, hd, hvs, rfl, hcause, rfl⟩⟩

theorem FailsAt.lt_length {i : Nat} (h : FailsAt b ds i) : i < ds.length := by
  obtain ⟨d, -, -, hd, -⟩ := h
  exact (List.getElem?_eq_some_iff.mp hd).1

/-- If a later declaration fails, the first one has a value. -/
theorem FailsAt.of_cons {i : Nat} (h : FailsAt b (d :: ds) (i + 1)) :
    ∃ v, evaluate d.expression b = .ok v ∧ FailsAt (b.bind d.name (bound v)) ds i := by
  obtain ⟨f, vs, cause, hf, hvs, hcause⟩ := h
  rw [List.take_succ_cons] at hvs
  obtain ⟨v, rest, rfl, hd, hrest⟩ := hvs.exists_cons
  exact ⟨v, hd, f, rest, cause, hf, hrest, hcause⟩

/-- **There is one place for a failure at most.** -/
theorem FailsAt.unique {i j : Nat} (hi : FailsAt b ds i) (hj : FailsAt b ds j) : i = j := by
  induction ds generalizing b i j with
  | nil => exact absurd hi.lt_length (Nat.not_lt_zero i)
  | cons d ds ih =>
      -- The first declaration has a value, or it has none and is the place.
      have hfirst : ∀ k, FailsAt b (d :: ds) 0 → ¬ FailsAt b (d :: ds) (k + 1) := by
        rintro k ⟨f, vs, cause, hf, hvs, hcause⟩ hk
        obtain rfl : d = f := Option.some.inj hf
        obtain rfl := computes_nil_iff.mp hvs
        obtain ⟨v, hv, -⟩ := hk.of_cons
        exact absurd (hcause.symm.trans hv) (by simp)
      cases i with
      | zero =>
          cases j with
          | zero => rfl
          | succ j => exact absurd hj (hfirst j hi)
      | succ i =>
          cases j with
          | zero => exact absurd hi (hfirst i hj)
          | succ j =>
              obtain ⟨v, hv, hi⟩ := hi.of_cons
              obtain ⟨w, hw, hj⟩ := hj.of_cons
              obtain rfl : v = w := Except.ok.inj (hv.symm.trans hw)
              rw [ih hi hj]

/-! ## §5. One run. -/

/-- **Resolving is strictly sequential and leaves an exact prefix on failure.**  After a success
every declaration has the value of its expression under the first bindings with the results of
those before it, and there is no place of a failure.  After a failure there is one such place: the
error tells of the declaration there, and the bindings are the first ones with the results of the
declarations before it.  Either way nothing but these results has changed. -/
theorem resolveDerived_sequential (b : Bindings) {ds : List Derived}
    (hnames : (ds.map Derived.name).Nodup) :
    match resolveDerived b ds with
    | (c, none) =>
      (∃ vs, Computes b ds vs ∧ Extends b ds vs c) ∧ ∀ i, ¬ FailsAt b ds i
    | (c, some e) =>
      ∃ i d vs cause, ds[i]? = some d ∧ Computes b (ds.take i) vs ∧ Extends b (ds.take i) vs c ∧
        evaluate d.expression c = .error cause ∧ e = ⟨d.name, d.line, cause⟩ ∧
          ∀ j, FailsAt b ds j ↔ j = i := by
  rcases hrun : resolveDerived b ds with ⟨c, failure⟩
  cases failure with
  | none =>
      obtain ⟨vs, hvs, rfl⟩ := resolveDerived_eq_ok_iff.mp hrun
      refine ⟨⟨vs, hvs, extends_withResults b hnames hvs.length_eq⟩, fun i hi => ?_⟩
      obtain ⟨c, e, herror⟩ := hi.exists_error
      rw [herror] at hrun
      cases hrun
  | some e =>
      obtain ⟨i, d, vs, cause, hd, hvs, rfl, hcause, he⟩ := resolveDerived_eq_error_iff.mp hrun
      have hprefix : ((ds.take i).map Derived.name).Nodup :=
        hnames.sublist ((List.take_sublist i ds).map Derived.name)
      have hplace : FailsAt b ds i := ⟨d, vs, cause, hd, hvs, hcause⟩
      refine ⟨i, d, vs, cause, hd, hvs, extends_withResults b hprefix hvs.length_eq, hcause, he,
        fun j => ⟨fun hj => hj.unique hplace, ?_⟩⟩
      rintro rfl
      exact hplace

/-- Declarations of which the second one takes a name that is bound already, and the third one
comes too early. -/
def rebinding : List Derived := [⟨"b", "a", 3⟩, ⟨"a", "b", 4⟩, ⟨"c", "d", 5⟩, ⟨"d", "a", 6⟩]

/-- The text bound first keeps its place and gets its quotes once. -/
theorem resolveDerived_sequential_rebinding :
    (rebinding.map Derived.name).Nodup ∧
      resolveDerived (Bindings.empty.bind "a" (.str "x")).withTimestamps rebinding =
        (⟨[("a", .str "\"x\""), ("ts", .builtin .ts), ("b", .str "\"x\"")]⟩,
          some ⟨"c", 5, .undefinedName "d"⟩) ∧
      ∀ j, FailsAt (Bindings.empty.bind "a" (.str "x")).withTimestamps rebinding j ↔ j = 2 := by
  have hnames : (rebinding.map Derived.name).Nodup := by decide
  have hrun : resolveDerived (Bindings.empty.bind "a" (.str "x")).withTimestamps rebinding =
      (⟨[("a", .str "\"x\""), ("ts", .builtin .ts), ("b", .str "\"x\"")]⟩,
        some ⟨"c", 5, .undefinedName "d"⟩) := by decide +kernel
  have h := resolveDerived_sequential (Bindings.empty.bind "a" (.str "x")).withTimestamps hnames
  rw [hrun] at h
  obtain ⟨i, d, -, cause, hd, -, -, -, he, hplace⟩ := h
  -- The line of the error is that of the third declaration.
  have hline : d.line = 5 := (congrArg DerivedError.line he).symm
  have hi : i = 2 := by
    match i, hd with
    | 0, hd | 1, hd | 3, hd =>
        obtain rfl := Option.some.inj hd
        exact absurd hline (by decide)
    | 2, _ => rfl
    | n + 4, hd => cases hd
  exact ⟨hnames, hrun, hi ▸ hplace⟩

end Fanout
