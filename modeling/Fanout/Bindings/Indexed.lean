/-
  Fanout.Bindings.Indexed
  ───────────────────────
  **Bindings with an index of their names.**

  The entries stand in the order in which their names were first bound, and
  an index leads from each name to its slot among them, so that a name is
  found without a search.  A slot outside of the entries would be a fault
  from which there is no way on: then `bind?` and `read?` give `none`.
-/
import Fanout.Bindings
import Mathlib.Data.List.Nodup

namespace Fanout

/-- Names with their values, and the slot of each name. -/
structure IndexedBindings where
  /-- The names and values, in the order of the first binding. -/
  entries : List (String × Value)
  /-- The slot of each name among the entries. -/
  index : Std.HashMap String Nat

namespace IndexedBindings

/-- No name is bound. -/
def empty : IndexedBindings := ⟨[], ∅⟩

/-- Binds a name to a value: in its slot if it has one, else behind the other entries. -/
def bind? (s : IndexedBindings) (name : String) (value : Value) : Option IndexedBindings :=
  match s.index[name]? with
  | some slot =>
    if slot < s.entries.length then
      some { s with entries := s.entries.modify slot fun e => (e.1, value) }
    else none
  | none => some ⟨s.entries ++ [(name, value)], s.index.insert name s.entries.length⟩

/-- Binds names to values, one after the other. -/
def bindAll? (s : IndexedBindings) (pairs : List (String × Value)) : Option IndexedBindings :=
  pairs.foldlM (fun s p => s.bind? p.1 p.2) s

/-- What is in the slot of a name; nothing if it has none. -/
def read? (s : IndexedBindings) (name : String) : Option (Option Value) :=
  match s.index[name]? with
  | some slot => (s.entries[slot]?).map fun e => some e.2
  | none => some none

/-- The names, in order. -/
def names (s : IndexedBindings) : List String := s.entries.map Prod.fst

/-- The number of entries. -/
def size (s : IndexedBindings) : Nat := s.entries.length

/-- The entries without their index. -/
def toBindings (s : IndexedBindings) : Bindings := ⟨s.entries⟩

end IndexedBindings

end Fanout
