/-
  Fanout.Proofs.Source.Names
  ──────────────────────────
  **What the names of a source stand for.**

  Three writers fill the bindings of a combination: the combination itself,
  the reading of timestamps, and the declarations of derived names.  Names
  that are declared differ from each other, but nothing keeps them apart
  from the name of the reading of timestamps:

    • a variable of that name loses its value to the reading of timestamps,
    • a derived name of that name takes the reading of timestamps away,
    • every other name keeps its value, and a placeholder shows it
      (`keepsNames_iff`).
-/
import Fanout.Proofs.Combination
import Fanout.Proofs.Derived
import Fanout.Proofs.Source.Header
import Fanout.Proofs.Template.Placeholder

namespace Fanout.Source

open Fanout.Expr Fanout.Template

/-! ## §1. The bindings of a combination. -/

/-- The bindings from which the derived names of the combination with a number from 0 are
resolved. -/
def start (s : Source) (n : Nat) : Bindings := (combinationAt s.vars n).bindings.withTimestamps

/-- The bindings of the combination with a number from 0 after the declarations of derived
names, and the failure that ended them, if there was one. -/
def resolution (s : Source) (n : Nat) : Bindings × Option DerivedError :=
  resolveDerived (s.start n) s.derived

variable {s : Source} {n : Nat} {b : Bindings}

/-- A combination begins with the values of its variables, up to the reading of timestamps. -/
theorem get?_start (hs : WellDeclared s.declarations) (hn : n < combinationVolume s.vars) {j : Nat}
    {v : Variable} (hv : s.vars[j]? = some v) :
    ∃ position value, (positions s.vars n)[j]? = some position ∧
      v.values[position]? = some value ∧
        (s.start n).get? v.name =
          some (if v.name = timestampName then .builtin .ts else value) := by
  obtain ⟨position, value, hposition, hvalue, hget⟩ :=
    get?_combinationAt hn (nodup_names_vars hs) hv
  refine ⟨position, value, hposition, hvalue, ?_⟩
  unfold start Bindings.withTimestamps
  rw [Bindings.get?_bind, hget]
  by_cases hname : v.name = timestampName
  · rw [if_pos hname.symm, if_pos hname]
  · rw [if_neg (Ne.symm hname), if_neg hname]

/-- The declarations of derived names leave the variables as they are. -/
theorem get?_resolution_of_mem (hs : WellDeclared s.declarations) {v : Variable}
    (hv : v ∈ s.vars) : (s.resolution n).1.get? v.name = (s.start n).get? v.name := by
  refine get?_resolveDerived_of_not_mem s.derived (s.start n) fun hmem => ?_
  obtain ⟨d, hd, hname⟩ := List.mem_map.mp hmem
  exact name_ne_of_mem hs hv hd hname.symm

/-- Every derived name is bound to the value of its expression. -/
theorem get?_resolution_of_derived (hs : WellDeclared s.declarations)
    (hb : s.resolution n = (b, none)) {before behind : List Derived} {d : Derived}
    (hd : s.derived = before ++ d :: behind) :
    ∃ value, evaluate d.expression (resolveDerived (s.start n) before).1 = .ok value ∧
      b.get? d.name = some (bound value) := by
  have hnodup := nodup_names_derived hs
  rw [hd, List.map_append, List.map_cons] at hnodup
  have hbehind : d.name ∉ behind.map Derived.name :=
    (List.nodup_cons.mp (List.nodup_append.mp hnodup).2.1).1
  unfold resolution at hb
  rw [hd] at hb
  obtain ⟨mid, value, hmid, hvalue, hget⟩ := exists_of_resolveDerived_ok hb hbehind
  exact ⟨value, by rw [hmid]; exact hvalue, hget⟩

/-! ## §2. Names that keep their values. -/

/-- Every name of a source has its value in a combination: a variable the one that the
combination picks, a derived name the one that its expression computes, and timestamps can be
read. -/
structure KeepsNames (s : Source) (n : Nat) (b : Bindings) : Prop where
  /-- Variables have the picked values. -/
  picked : ∀ (j : Nat) (v : Variable) position value, s.vars[j]? = some v →
    (positions s.vars n)[j]? = some position → v.values[position]? = some value →
      b.get? v.name = some value
  /-- Derived names have the computed values. -/
  computed : ∀ before d behind value, s.derived = before ++ d :: behind →
    evaluate d.expression (resolveDerived (s.start n) before).1 = .ok value →
      b.get? d.name = some (bound value)
  /-- The name of the reading of timestamps is bound to it. -/
  timestamps : b.get? timestampName = some (.builtin .ts)

/-- No declaration gives the name of the reading of timestamps to anything else. -/
structure LeavesTimestamps (s : Source) (n : Nat) : Prop where
  /-- No variable has the name. -/
  noVariable : ∀ v ∈ s.vars, v.name ≠ timestampName
  /-- A derived name of that name is the reading of timestamps itself. -/
  noOther : ∀ before d behind, s.derived = before ++ d :: behind → d.name = timestampName →
    evaluate d.expression (resolveDerived (s.start n) before).1 = .ok (.builtin .ts)

theorem eq_builtin_of_bound {value : Value} {f : Builtin} (h : bound value = .builtin f) :
    value = .builtin f := by
  cases value with
  | str t => cases h
  | _ => exact h

/-- Where a name is that of the reading of timestamps, one of the names loses its value. -/
theorem leavesTimestamps_of_keepsNames (hs : WellDeclared s.declarations)
    (hn : n < combinationVolume s.vars) (hb : s.resolution n = (b, none))
    (h : KeepsNames s n b) : LeavesTimestamps s n := by
  refine ⟨fun v hv hname => ?_, fun before d behind hd hname => ?_⟩
  · -- A variable of the name would have the reading of timestamps as its value.
    obtain ⟨j, hj⟩ := List.mem_iff_getElem?.mp hv
    obtain ⟨position, value, hposition, hvalue, -⟩ := get?_start hs hn hj
    have hkept := h.picked j v position value hj hposition hvalue
    rw [hname, h.timestamps] at hkept
    exact not_builtin_of_mem hs hv (List.mem_of_getElem? hvalue) .ts (Option.some.inj hkept).symm
  · -- A derived name of the name is bound to what it computes.
    obtain ⟨value, hvalue, hget⟩ := get?_resolution_of_derived hs hb hd
    rw [hname, h.timestamps] at hget
    rw [hvalue, eq_builtin_of_bound (Option.some.inj hget).symm]

/-- A variable of another name keeps its value. -/
theorem get?_variable (hs : WellDeclared s.declarations) (hn : n < combinationVolume s.vars)
    (hb : s.resolution n = (b, none)) {j : Nat} {v : Variable} (hv : s.vars[j]? = some v)
    (hname : v.name ≠ timestampName) :
    ∃ position value, (positions s.vars n)[j]? = some position ∧
      v.values[position]? = some value ∧ b.get? v.name = some value := by
  obtain ⟨position, value, hposition, hvalue, hget⟩ := get?_start hs hn hv
  refine ⟨position, value, hposition, hvalue, ?_⟩
  have hkept := get?_resolution_of_mem (n := n) hs (List.mem_of_getElem? hv)
  rw [hb, hget, if_neg hname] at hkept
  exact hkept

theorem keepsNames_of_leavesTimestamps (hs : WellDeclared s.declarations)
    (hn : n < combinationVolume s.vars) (hb : s.resolution n = (b, none))
    (h : LeavesTimestamps s n) : KeepsNames s n b := by
  refine ⟨?_, ?_, ?_⟩
  · intro j v position value hv hposition hvalue
    obtain ⟨position', value', hposition', hvalue', hget⟩ :=
      get?_variable hs hn hb hv (h.noVariable v (List.mem_of_getElem? hv))
    obtain rfl : position' = position := Option.some.inj (hposition'.symm.trans hposition)
    obtain rfl : value' = value := Option.some.inj (hvalue'.symm.trans hvalue)
    exact hget
  · intro before d behind value hd hvalue
    obtain ⟨value', hvalue', hget⟩ := get?_resolution_of_derived hs hb hd
    obtain rfl : value' = value := Except.ok.inj (hvalue'.symm.trans hvalue)
    exact hget
  · by_cases hmem : timestampName ∈ s.derived.map Derived.name
    · -- The name is declared again: as what it was.
      obtain ⟨d, hd, hname⟩ := List.mem_map.mp hmem
      obtain ⟨before, behind, hsplit⟩ := List.append_of_mem hd
      obtain ⟨value, hvalue, hget⟩ := get?_resolution_of_derived hs hb hsplit
      rw [h.noOther before d behind hsplit hname] at hvalue
      obtain rfl : Value.builtin .ts = value := Except.ok.inj hvalue
      rw [hname] at hget
      exact hget
    · -- The name is not declared again, so it stays bound as at the start.
      have hkept := get?_resolveDerived_of_not_mem s.derived (s.start n) hmem
      unfold resolution at hb
      rw [hb] at hkept
      rw [hkept]
      unfold start Bindings.withTimestamps
      rw [Bindings.get?_bind, if_pos rfl]

/-- **A placeholder shows the value of a declared name.** -/
theorem substitute_declared (hs : WellDeclared s.declarations) {d : Declaration}
    (hd : d ∈ s.declarations) {value : Value} (hget : b.get? d.name = some value)
    (firstLine : Nat) : substitute ("$" ++ d.name) firstLine b = .ok value.text :=
  substitute_reference (hs.isName d hd) firstLine hget

/-! ## §3. Every name of a source. -/

/-- **The names of an accepted source.**  In a combination whose derived names have values,
all names keep their values if and only if no declaration gives the name of the reading of
timestamps to anything else.  In any case a variable of another name has the value that the
combination picks, a derived name has the value that its expression computes, and a
placeholder shows it. -/
theorem keepsNames_iff {path : Path} {text : String} (hs : ofText path text = .ok s)
    (hn : n < combinationVolume s.vars) (hb : s.resolution n = (b, none)) :
    (KeepsNames s n b ↔ LeavesTimestamps s n)
    ∧ (∀ (j : Nat) (v : Variable), s.vars[j]? = some v → v.name ≠ timestampName →
        ∃ position value, (positions s.vars n)[j]? = some position ∧
          v.values[position]? = some value ∧ b.get? v.name = some value ∧
            ∀ firstLine, substitute ("$" ++ v.name) firstLine b = .ok value.text)
    ∧ ∀ before d behind, s.derived = before ++ d :: behind →
        ∃ value, evaluate d.expression (resolveDerived (s.start n) before).1 = .ok value ∧
          b.get? d.name = some (bound value) ∧
            ∀ firstLine, substitute ("$" ++ d.name) firstLine b = .ok (bound value).text := by
  obtain ⟨-, hwell⟩ := of_ofText hs
  refine ⟨⟨leavesTimestamps_of_keepsNames hwell hn hb, keepsNames_of_leavesTimestamps hwell hn hb⟩,
    ?_, ?_⟩
  · intro j v hv hname
    obtain ⟨position, value, hposition, hvalue, hget⟩ := get?_variable hwell hn hb hv hname
    refine ⟨position, value, hposition, hvalue, hget, fun firstLine => ?_⟩
    exact substitute_declared hwell (mem_vars_iff.mp (List.mem_of_getElem? hv)) hget firstLine
  · intro before d behind hd
    obtain ⟨value, hvalue, hget⟩ := get?_resolution_of_derived hwell hb hd
    have hmem : d ∈ s.derived := by
      rw [hd]
      exact List.mem_append_right before List.mem_cons_self
    exact ⟨value, hvalue, hget, fun firstLine =>
      substitute_declared hwell (mem_derived_iff.mp hmem) hget firstLine⟩

/-- A source with a variable of the name of the reading of timestamps. -/
def shadowed : Source :=
  ⟨⟨"demo.crankgen"⟩, [.domain ⟨"ts", .typed, [.int 1], 1⟩], "$ts\n", 3⟩

/-- Its only combination does not bind the variable to its value. -/
theorem not_keepsNames_shadowed :
    ofText ⟨"demo.crankgen"⟩ "VAR ts = 1\nBEGIN_TEMPLATE\n$ts\n" = .ok shadowed ∧
      0 < combinationVolume shadowed.vars ∧
      shadowed.resolution 0 = (⟨[("ts", .builtin .ts)]⟩, none) ∧
      ¬ KeepsNames shadowed 0 ⟨[("ts", .builtin .ts)]⟩ := by
  have htext : ofText ⟨"demo.crankgen"⟩ "VAR ts = 1\nBEGIN_TEMPLATE\n$ts\n" = .ok shadowed := rfl
  have hn : 0 < combinationVolume shadowed.vars := by decide
  have hb : shadowed.resolution 0 = (⟨[("ts", .builtin .ts)]⟩, none) := by decide +kernel
  refine ⟨htext, hn, hb, fun hkeeps => ?_⟩
  have hleaves := (keepsNames_iff htext hn hb).1.mp hkeeps
  exact hleaves.noVariable ⟨"ts", .typed, [.int 1], 1⟩ List.mem_cons_self rfl

end Fanout.Source
