/-
  Fanout.Proofs.Indexed
  ─────────────────────
  **The index and the entries stay in step.**

  However often names are bound and bound again, the index leads from each
  name to the slot that carries it and from no other name anywhere, so that
  indexed bindings say the same as bindings that are searched from the front:

    • `Coherent.bind?` — one binding keeps index and entries in step and is
      never at a loss for a slot,
    • `exists_bindAll?` — so does any number of them, with the entries of
      the same bindings without an index,
    • `Bindings.names_bindAll_empty`, `Bindings.get?_bindAll_append` — the
      names stand in the order in which they first came, each with its last
      value,
    • `exists_recorded` — what a sequence of bindings leaves.
-/
import Fanout.Bindings.Indexed
import Fanout.Proofs.Bindings
import Mathlib.Data.Finset.Card

namespace Fanout

/-! ## §1. Bindings that are searched. -/

namespace Bindings

/-- A name that is bound for the first time goes to the end, and any other stays. -/
theorem names_bindAll_empty (pairs : List (String × Value)) :
    (empty.bindAll pairs).names = (pairs.map Prod.fst).eraseDups := by
  induction pairs using List.reverseRecOn with
  | nil => rfl
  | append_singleton pairs p ih =>
      rw [bindAll_append, List.map_append, List.eraseDups_append, ← ih]
      show ((empty.bindAll pairs).bind p.1 p.2).names = _
      rw [names_bind]
      by_cases hmem : p.1 ∈ (empty.bindAll pairs).names
      · have hold : p.1 ∈ pairs.map Prod.fst := List.mem_eraseDups.mp (ih ▸ hmem)
        rw [if_pos hmem]
        simp [List.removeAll, hold]
      · have hnew : p.1 ∉ pairs.map Prod.fst := fun h => hmem (ih ▸ List.mem_eraseDups.mpr h)
        rw [if_neg hmem]
        simp [List.removeAll, hnew, List.eraseDups_cons]

/-- A name has the value it was bound to last. -/
theorem get?_bindAll_append {name : String} {value : Value} {before behind : List (String × Value)}
    (hlast : name ∉ behind.map Prod.fst) (b : Bindings) :
    (b.bindAll (before ++ (name, value) :: behind)).get? name = some value := by
  rw [bindAll_append, bindAll_cons, get?_bindAll_of_not_mem behind _ hlast, get?_bind, if_pos rfl]

end Bindings

/-- **Putting a value at a key is modifying its place**, where it has but one. -/
theorem Assoc.put_eq_modify {α β : Type} [DecidableEq α] {key : α} (value : β)
    {es : List (α × β)} :
    ∀ {slot : Nat}, (keys es)[slot]? = some key → (keys es).Nodup →
      put key value es = es.modify slot fun e => (e.1, value) := by
  induction es with
  | nil => intro slot h; cases h
  | cons e es ih =>
      intro slot h hnodup
      obtain ⟨hfresh, hothers⟩ := List.nodup_cons.mp hnodup
      cases slot with
      | zero =>
          obtain rfl : e.1 = key := Option.some.inj h
          rw [put, if_pos rfl, List.modify_zero_cons]
      | succ slot =>
          have hslot : (keys es)[slot]? = some key := h
          have hmem : key ∈ keys es := List.mem_of_getElem? hslot
          have hne : e.1 ≠ key := by
            rintro rfl
            exact hfresh hmem
          rw [put, if_neg hne, List.modify_succ_cons, ih hslot hothers]

/-- Putting a value at a new key is adding an entry. -/
theorem Assoc.put_eq_append {α β : Type} [DecidableEq α] {key : α} (value : β)
    {es : List (α × β)} (h : key ∉ keys es) : put key value es = es ++ [(key, value)] := by
  induction es with
  | nil => rfl
  | cons e es ih =>
      obtain ⟨hne, hothers⟩ := not_or.mp (fun hmem => h (List.mem_cons.mpr hmem))
      rw [put, if_neg fun heq => hne heq.symm, ih hothers, List.cons_append]

/-! ## §2. The index. -/

namespace IndexedBindings

/-- Index and entries are in step: a name leads to a slot exactly if the slot carries the name. -/
def Coherent (s : IndexedBindings) : Prop :=
  ∀ (name : String) (slot : Nat), s.index[name]? = some slot ↔ s.names[slot]? = some name

variable {s t : IndexedBindings} {name other : String} {value : Value} {slot : Nat}

theorem coherent_empty : empty.Coherent := by
  intro name slot
  simp [empty, names]

/-- A slot lies among the entries. -/
theorem Coherent.slot_lt (h : s.Coherent) (hslot : s.index[name]? = some slot) :
    slot < s.entries.length := by
  have hlt := (List.getElem?_eq_some_iff.mp ((h name slot).mp hslot)).1
  rwa [names, List.length_map] at hlt

/-- A name without a slot is no name of an entry. -/
theorem Coherent.not_mem_names (h : s.Coherent) (hnone : s.index[name]? = none) :
    name ∉ s.names := by
  intro hmem
  obtain ⟨slot, hslot⟩ := List.mem_iff_getElem?.mp hmem
  rw [(h name slot).mpr hslot] at hnone
  cases hnone

/-- A name that leads to one slot stands in no other. -/
theorem Coherent.nodup_names (h : s.Coherent) : s.names.Nodup := by
  rw [List.nodup_iff_injective_getElem]
  rintro ⟨i, hi⟩ ⟨j, hj⟩ hij
  have hleft := (h _ i).mpr (List.getElem?_eq_getElem hi)
  have hright := (h _ j).mpr (List.getElem?_eq_getElem hj)
  rw [show s.names[i] = s.names[j] from hij, hright] at hleft
  exact Fin.ext (Option.some.inj hleft).symm

/-- What stands in a list with one more element. -/
theorem getElem?_concat_eq_some_iff {xs : List String} {x y : String} {k : Nat} :
    (xs ++ [x])[k]? = some y ↔ xs[k]? = some y ∨ (k = xs.length ∧ x = y) := by
  rw [List.getElem?_append]
  by_cases hk : k < xs.length
  · simp [hk, Nat.ne_of_lt hk]
  · rw [if_neg hk, List.getElem?_eq_none (Nat.le_of_not_lt hk)]
    cases hsub : k - xs.length with
    | zero => simp [show k = xs.length by omega]
    | succ m => simp [show k ≠ xs.length by omega]

/-- Modifying the value of an entry keeps the names. -/
theorem map_fst_modify (es : List (String × Value)) (slot : Nat) :
    (es.modify slot fun e => (e.1, value)).map Prod.fst = es.map Prod.fst := by
  induction es generalizing slot with
  | nil => rw [List.modify_nil]
  | cons e es ih =>
      cases slot with
      | zero => rfl
      | succ slot => rw [List.modify_succ_cons, List.map_cons, List.map_cons, ih]

/-- **One binding keeps index and entries in step**: there is always a slot for it, and it does to
the entries what it does to bindings without an index. -/
theorem Coherent.bind? (h : s.Coherent) (name : String) (value : Value) :
    ∃ t, s.bind? name value = some t ∧ t.Coherent ∧
      t.toBindings = s.toBindings.bind name value := by
  unfold IndexedBindings.bind?
  cases hindex : s.index[name]? with
  | some slot =>
      refine ⟨_, if_pos (h.slot_lt hindex), ?_, ?_⟩
      · -- Neither the names nor the index change.
        intro other k
        rw [names, map_fst_modify]
        exact h other k
      · have hput := Assoc.put_eq_modify value ((h name slot).mp hindex) h.nodup_names
        exact congrArg Bindings.mk hput.symm
  | none =>
      have hnew := h.not_mem_names hindex
      refine ⟨_, rfl, ?_, congrArg Bindings.mk (Assoc.put_eq_append value hnew).symm⟩
      intro other k
      have hnames : names ⟨s.entries ++ [(name, value)], s.index.insert name s.entries.length⟩ =
          s.names ++ [name] := List.map_append
      have hlength : s.names.length = s.entries.length := List.length_map _
      rw [Std.HashMap.getElem?_insert, hnames, getElem?_concat_eq_some_iff, hlength]
      by_cases hname : name = other
      · -- The new name stands at the end and nowhere before it.
        subst hname
        have hold : s.names[k]? ≠ some name := fun hmem => hnew (List.mem_of_getElem? hmem)
        rw [if_pos (beq_self_eq_true name), Option.some_inj, or_iff_right hold, eq_comm]
        exact (and_iff_left rfl).symm
      · rw [if_neg (by simpa using hname), or_iff_left fun hlast => hname hlast.2]
        exact h other k

/-- **Any number of bindings keeps them in step.** -/
theorem exists_bindAll? (pairs : List (String × Value)) :
    ∀ {s : IndexedBindings}, s.Coherent →
      ∃ t, s.bindAll? pairs = some t ∧ t.Coherent ∧
        t.toBindings = s.toBindings.bindAll pairs := by
  induction pairs with
  | nil => exact fun h => ⟨_, rfl, h, rfl⟩
  | cons p pairs ih =>
      intro s h
      obtain ⟨t, hbind, ht, hentries⟩ := h.bind? p.1 p.2
      obtain ⟨u, hrest, hu, hall⟩ := ih ht
      refine ⟨u, ?_, hu, by rw [hall, hentries, Bindings.bindAll_cons]⟩
      show (s.bind? p.1 p.2 >>= fun t => t.bindAll? pairs) = some u
      rw [hbind]
      exact hrest

/-- **What a slot holds is what a search finds.** -/
theorem Coherent.read? (h : s.Coherent) (name : String) :
    s.read? name = some (s.toBindings.get? name) := by
  unfold IndexedBindings.read?
  cases hindex : s.index[name]? with
  | some slot =>
      have hslot := (h name slot).mp hindex
      rw [names, List.getElem?_map] at hslot
      obtain ⟨e, he, rfl⟩ := Option.map_eq_some_iff.mp hslot
      have hfound : s.toBindings.get? e.1 = some e.2 :=
        Assoc.get?_of_mem h.nodup_names (List.mem_of_getElem? he)
      rw [hfound]
      show (s.entries[slot]?).map _ = _
      rw [he]
      rfl
  | none =>
      have hnone : s.toBindings.get? name = none := by
        refine Option.eq_none_iff_forall_ne_some.mpr fun value hvalue => ?_
        exact h.not_mem_names hindex (List.mem_map_of_mem (Assoc.mem_of_get? hvalue))
      rw [hnone]

/-! ## §3. Sequences of bindings. -/

/-- What a sequence of bindings leaves. -/
structure Recorded (pairs : List (String × Value)) (s : IndexedBindings) : Prop where
  /-- The index leads somewhere from the names that were bound, and from no others. -/
  indexed_iff : ∀ name : String, (∃ slot, s.index[name]? = some slot) ↔ name ∈ pairs.map Prod.fst
  /-- It leads to the slot that carries the name. -/
  slot_iff : ∀ (name : String) (slot : Nat), s.index[name]? = some slot ↔ s.names[slot]? = some name
  /-- All slots lie among the entries. -/
  slot_lt : ∀ (name : String) (slot : Nat), s.index[name]? = some slot → slot < s.entries.length
  /-- No name comes twice. -/
  nodup : s.names.Nodup
  /-- The names stand in the order in which they were first bound. -/
  names_eq : s.names = (pairs.map Prod.fst).eraseDups
  /-- There are as many entries as there are names. -/
  size_eq : s.size = (pairs.map Prod.fst).toFinset.card
  /-- A name has the value that it was bound to last. -/
  read_last : ∀ before name value behind, pairs = before ++ (name, value) :: behind →
    name ∉ behind.map Prod.fst → s.read? name = some (some value)
  /-- A name that was never bound has none. -/
  read_none : ∀ name, name ∉ pairs.map Prod.fst → s.read? name = some none
  /-- Binding one more name changes that name and no other. -/
  read_bind : ∀ name value, ∃ t, s.bind? name value = some t ∧
    ∀ other, t.read? other = if name = other then some (some value) else s.read? other
  /-- The same bindings without an index have the same entries and find the same values. -/
  searched : s.toBindings = Bindings.empty.bindAll pairs ∧
    ∀ name, s.read? name = some ((Bindings.empty.bindAll pairs).get? name)

/-- **Index and entries stay in step through every sequence of bindings**: it never fails for want
of a slot; the index has exactly the bound names, each with the slot that carries it; the names are
distinct and stand in the order in which they were first bound; each has its last value, and no
other name has any. -/
theorem exists_recorded (pairs : List (String × Value)) :
    ∃ s, empty.bindAll? pairs = some s ∧ Recorded pairs s := by
  obtain ⟨s, hs, hcoherent, hentries⟩ := exists_bindAll? pairs coherent_empty
  have hread : ∀ name, s.read? name = some ((Bindings.empty.bindAll pairs).get? name) := by
    intro name
    rw [hcoherent.read? name, hentries]
    rfl
  have hnames : s.names = (pairs.map Prod.fst).eraseDups := by
    rw [← Bindings.names_bindAll_empty]
    exact congrArg Bindings.names hentries
  have hmem : ∀ name, name ∈ s.names ↔ name ∈ pairs.map Prod.fst := by
    intro name
    rw [hnames, List.mem_eraseDups]
  refine ⟨s, hs, ?_⟩
  constructor
  case indexed_iff =>
    intro name
    rw [← hmem, List.mem_iff_getElem?]
    exact exists_congr fun slot => hcoherent name slot
  case slot_iff => exact hcoherent
  case slot_lt => exact fun name slot hslot => hcoherent.slot_lt hslot
  case nodup => exact hcoherent.nodup_names
  case names_eq => exact hnames
  case size_eq =>
    have hset : (pairs.map Prod.fst).toFinset = s.names.toFinset := by
      ext name
      rw [List.mem_toFinset, List.mem_toFinset, hmem]
    rw [hset, List.toFinset_card_of_nodup hcoherent.nodup_names]
    exact (List.length_map _).symm
  case read_last =>
    rintro before name value behind rfl hlast
    rw [hread, Bindings.get?_bindAll_append hlast]
  case read_none =>
    intro name hnot
    rw [hread, Bindings.get?_bindAll_of_not_mem pairs _ hnot]
    rfl
  case read_bind =>
    intro name value
    obtain ⟨t, hbind, ht, htentries⟩ := hcoherent.bind? name value
    refine ⟨t, hbind, fun other => ?_⟩
    rw [ht.read?, htentries, Bindings.get?_bind, hcoherent.read?]
    split <;> rfl
  case searched => exact ⟨hentries, hread⟩

end IndexedBindings

end Fanout
