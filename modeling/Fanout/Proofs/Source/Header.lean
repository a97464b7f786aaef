/-
  Fanout.Proofs.Source.Header
  ───────────────────────────
  **What the header of a source can declare.**

  `WellDeclared` holds of no declarations and is preserved by every line
  that declares another name, so it holds of every header that is read:
  the names are names and differ from each other, and every variable has
  values, each of them read from a text.
-/
import Mathlib.Data.List.Nodup
import Fanout.Source.Read

namespace Fanout.Source

open Fanout.Text Fanout.Expr

/-! ## §1. The invariant. -/

/-- Declarations as a header can have them. -/
structure WellDeclared (ds : List Declaration) : Prop where
  /-- No name comes twice. -/
  nodup : (ds.map Declaration.name).Nodup
  /-- Every name is one. -/
  isName : ∀ d ∈ ds, Expr.isName d.name.toList = true
  /-- Every variable has a value. -/
  values_ne_nil : ∀ v, Declaration.domain v ∈ ds → v.values ≠ []
  /-- Every value of a variable is read from a text. -/
  exists_readValue : ∀ v, Declaration.domain v ∈ ds →
    ∀ value ∈ v.values, ∃ text, value = readValue v.kind text

theorem wellDeclared_nil : WellDeclared [] :=
  ⟨List.nodup_nil, by simp, by simp, by simp⟩

/-! ## §2. One line. -/

/-- What is declared is named by the name. -/
@[simp] theorem name_declare (d : Directive) (name : String) (right : List Char) (number : Nat) :
    (declare d name right number).name = name := by
  cases d <;> rfl

/-- A declared variable has a value for every part between commas. -/
theorem values_of_declare {d : Directive} {name : String} {right : List Char} {number : Nat}
    {v : Variable} (h : declare d name right number = .domain v) :
    v.values =
      (splitAt ',' right).map fun item => readValue v.kind (String.ofList (trim item)) := by
  cases d with
  | derived => cases h
  | domain kind =>
      cases h
      simp

/-- A name without a line is not declared. -/
theorem not_mem_of_lineOf? {declared : List Declaration} {name : String}
    (h : lineOf? declared name = none) : name ∉ declared.map Declaration.name := by
  unfold lineOf? at h
  rw [Option.map_eq_none_iff, List.find?_eq_none] at h
  intro hmem
  obtain ⟨d, hd, hname⟩ := List.mem_map.mp hmem
  exact h d hd (by simp [hname])

/-- What a line declares. -/
theorem exists_of_readDirective {declared : List Declaration} {d : Directive} {line : List Char}
    {number : Nat} {decl : Declaration} (h : readDirective declared d line number = .ok decl) :
    ∃ name right, Expr.isName name = true ∧
      String.ofList name ∉ declared.map Declaration.name ∧
        decl = declare d (String.ofList name) right number := by
  unfold readDirective at h
  split at h
  · cases h
  · rename_i left right hcut
    dsimp only at h
    split at h
    · cases h
    · split at h
      · cases h
      · rename_i hname
        split at h
        · cases h
        · rename_i hline
          exact ⟨trim (left.drop d.word.length), trim right, by simpa using hname,
            not_mem_of_lineOf? hline, (Except.ok.inj h).symm⟩

/-- **A line that declares another name preserves the invariant.** -/
theorem wellDeclared_of_readDirective {declared : List Declaration} (hd : WellDeclared declared)
    {d : Directive} {line : List Char} {number : Nat} {decl : Declaration}
    (h : readDirective declared d line number = .ok decl) : WellDeclared (declared ++ [decl]) := by
  obtain ⟨name, right, hname, hnew, rfl⟩ := exists_of_readDirective h
  refine ⟨?_, ?_, ?_, ?_⟩
  · rw [List.map_append, List.map_singleton, name_declare]
    refine List.nodup_append.mpr ⟨hd.nodup, List.nodup_singleton _, ?_⟩
    intro a ha b hb hab
    rw [hab, List.mem_singleton.mp hb] at ha
    exact hnew ha
  · intro decl hmem
    rcases List.mem_append.mp hmem with hmem | hmem
    · exact hd.isName decl hmem
    · rw [List.mem_singleton.mp hmem, name_declare, String.toList_ofList]
      exact hname
  · intro v hmem
    rcases List.mem_append.mp hmem with hmem | hmem
    · exact hd.values_ne_nil v hmem
    · -- A text between commas has at least one part.
      rw [values_of_declare (List.mem_singleton.mp hmem).symm]
      intro hnil
      have hlength := length_splitAt ',' right
      rw [List.map_eq_nil_iff.mp hnil] at hlength
      cases hlength
  · intro v hmem value hvalue
    rcases List.mem_append.mp hmem with hmem | hmem
    · exact hd.exists_readValue v hmem value hvalue
    · rw [values_of_declare (List.mem_singleton.mp hmem).symm] at hvalue
      obtain ⟨item, -, rfl⟩ := List.mem_map.mp hvalue
      exact ⟨_, rfl⟩

/-! ## §3. Headers. -/

/-- **Every header that is read is well declared.** -/
theorem wellDeclared_of_readHeader (lines : List (List Char)) :
    ∀ {number : Nat} {declared : List Declaration} {header : Header},
      WellDeclared declared → readHeader number declared lines = .ok header →
        WellDeclared header.declarations := by
  induction lines with
  | nil => intro number declared header _ h; cases h
  | cons line lines ih =>
      intro number declared header hd h
      rw [readHeader] at h
      split at h
      · cases h
        exact hd
      · split at h
        · exact ih hd h
        · split at h
          · cases h
          · rename_i decl hdecl
            exact ih (wellDeclared_of_readDirective hd hdecl) h

/-- A text that is read as a source gives its declarations and keeps its path. -/
theorem of_ofText {path : Path} {text : String} {s : Source} (h : ofText path text = .ok s) :
    s.path = path ∧ WellDeclared s.declarations := by
  unfold ofText at h
  split at h
  · cases h
  · rename_i header hheader
    cases h
    exact ⟨rfl, wellDeclared_of_readHeader _ wellDeclared_nil hheader⟩

/-! ## §4. Variables and derived names. -/

variable {s : Source}

theorem asVariable?_eq_some_iff {d : Declaration} {v : Variable} :
    d.asVariable? = some v ↔ d = .domain v := by
  cases d with
  | domain u => simp [Declaration.asVariable?]
  | derived e => simp [Declaration.asVariable?]

theorem asDerived?_eq_some_iff {d : Declaration} {e : Derived} :
    d.asDerived? = some e ↔ d = .derived e := by
  cases d with
  | domain v => simp [Declaration.asDerived?]
  | derived e => simp [Declaration.asDerived?]

theorem mem_vars_iff {v : Variable} : v ∈ s.vars ↔ Declaration.domain v ∈ s.declarations := by
  unfold vars
  rw [List.mem_filterMap]
  constructor
  · rintro ⟨d, hd, hv⟩
    rw [asVariable?_eq_some_iff.mp hv] at hd
    exact hd
  · exact fun h => ⟨_, h, rfl⟩

theorem mem_derived_iff {d : Derived} :
    d ∈ s.derived ↔ Declaration.derived d ∈ s.declarations := by
  unfold derived
  rw [List.mem_filterMap]
  constructor
  · rintro ⟨e, he, hd⟩
    rw [asDerived?_eq_some_iff.mp hd] at he
    exact he
  · exact fun h => ⟨_, h, rfl⟩

/-- What is read off some declarations is among what is read off all, in the same order. -/
theorem sublist_selected {α β : Type} {select : Declaration → Option α} (key : Declaration → β)
    {keyOf : α → β} (hselect : ∀ d a, select d = some a → keyOf a = key d)
    (ds : List Declaration) : ((ds.filterMap select).map keyOf).Sublist (ds.map key) := by
  induction ds with
  | nil => exact List.Sublist.refl _
  | cons d ds ih =>
      cases hd : select d with
      | none =>
          rw [List.filterMap_cons_none hd]
          exact ih.cons _
      | some a =>
          rw [List.filterMap_cons_some hd, List.map_cons, List.map_cons, hselect d a hd]
          exact ih.cons_cons _

/-- What is read off the variables is among what is read off the declarations. -/
theorem sublist_vars {β : Type} (key : Declaration → β) (s : Source) :
    (s.vars.map fun v => key (.domain v)).Sublist (s.declarations.map key) := by
  refine sublist_selected key ?_ s.declarations
  intro d v hv
  rw [asVariable?_eq_some_iff.mp hv]

/-- What is read off the derived names is among what is read off the declarations. -/
theorem sublist_derived {β : Type} (key : Declaration → β) (s : Source) :
    (s.derived.map fun d => key (.derived d)).Sublist (s.declarations.map key) := by
  refine sublist_selected key ?_ s.declarations
  intro d e he
  rw [asDerived?_eq_some_iff.mp he]

theorem nodup_names_vars (h : WellDeclared s.declarations) :
    (s.vars.map fun v => v.name).Nodup :=
  (sublist_vars Declaration.name s).nodup h.nodup

theorem nodup_names_derived (h : WellDeclared s.declarations) :
    (s.derived.map Derived.name).Nodup :=
  (sublist_derived Declaration.name s).nodup h.nodup

/-- **No variable has the name of a derived name.** -/
theorem name_ne_of_mem (h : WellDeclared s.declarations) {v : Variable} {d : Derived}
    (hv : v ∈ s.vars) (hd : d ∈ s.derived) : v.name ≠ d.name := by
  intro hname
  -- Names tell declarations apart, and these two are of different kinds.
  have heq := List.inj_on_of_nodup_map h.nodup (mem_vars_iff.mp hv) (mem_derived_iff.mp hd) hname
  cases heq

theorem values_ne_nil_of_mem (h : WellDeclared s.declarations) :
    ∀ v ∈ s.vars, v.values ≠ [] :=
  fun v hv => h.values_ne_nil v (mem_vars_iff.mp hv)

/-- **No value of a variable is a function.** -/
theorem not_builtin_of_mem (h : WellDeclared s.declarations) {v : Variable} (hv : v ∈ s.vars)
    {value : Value} (hvalue : value ∈ v.values) (f : Builtin) : value ≠ .builtin f := by
  obtain ⟨text, rfl⟩ := h.exists_readValue v (mem_vars_iff.mp hv) value hvalue
  unfold readValue
  cases v.kind with
  | quoted => exact Value.noConfusion
  | typed =>
      dsimp only
      split
      · exact Value.noConfusion
      · split
        · exact Value.noConfusion
        · exact Value.noConfusion

end Fanout.Source
