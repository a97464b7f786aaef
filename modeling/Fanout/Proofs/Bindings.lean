/-
  Fanout.Proofs.Bindings
  ──────────────────────
  **Binding many names.**

  `bindAll` binds names one after the other.  Names that are not among them
  keep their values and their places, and as long as no name comes twice
  each has the value that it came with and the new ones stand behind the
  others in the order in which they came.
-/
import Fanout.Bindings

namespace Fanout.Bindings

theorem bindAll_cons (b : Bindings) (p : String × Value) (pairs : List (String × Value)) :
    b.bindAll (p :: pairs) = (b.bind p.1 p.2).bindAll pairs := rfl

/-- A name that is not among those bound keeps its value. -/
theorem get?_bindAll_of_not_mem {name : String} (pairs : List (String × Value)) :
    ∀ b : Bindings, name ∉ pairs.map Prod.fst → (b.bindAll pairs).get? name = b.get? name := by
  induction pairs with
  | nil => intro b _; rfl
  | cons p pairs ih =>
      intro b h
      rw [List.map_cons, List.mem_cons, not_or] at h
      have hne : ¬ p.1 = name := fun e => h.1 e.symm
      rw [bindAll_cons, ih _ h.2, get?_bind, if_neg hne]

/-- A name keeps its place when another one is bound. -/
theorem getElem?_names_bind {name other : String} {value : Value} (h : other ≠ name) (b : Bindings)
    (k : Nat) : (b.bind other value).names[k]? = some name ↔ b.names[k]? = some name := by
  rw [names_bind]
  by_cases hmem : other ∈ b.names
  · rw [if_pos hmem]
  · -- The name that goes to the end is another one.
    rw [if_neg hmem, List.getElem?_append]
    by_cases hk : k < b.names.length
    · rw [if_pos hk]
    · rw [if_neg hk, List.getElem?_eq_none (Nat.le_of_not_lt hk)]
      cases k - b.names.length with
      | zero => simp [h]
      | succ m => simp

/-- A name that is not among those bound keeps its place. -/
theorem getElem?_names_bindAll {name : String} (pairs : List (String × Value)) :
    ∀ (b : Bindings) (k : Nat), name ∉ pairs.map Prod.fst →
      ((b.bindAll pairs).names[k]? = some name ↔ b.names[k]? = some name) := by
  induction pairs with
  | nil => intro b k _; rfl
  | cons p pairs ih =>
      intro b k h
      rw [List.map_cons, List.mem_cons, not_or] at h
      have hne : p.1 ≠ name := fun e => h.1 e.symm
      rw [bindAll_cons, ih _ k h.2, getElem?_names_bind hne]

/-- **Of names that come once each has the value that it came with.** -/
theorem get?_bindAll_of_mem {name : String} {value : Value} (pairs : List (String × Value)) :
    ∀ b : Bindings, (pairs.map Prod.fst).Nodup → (name, value) ∈ pairs →
      (b.bindAll pairs).get? name = some value := by
  induction pairs with
  | nil => intro b _ hmem; exact absurd hmem List.not_mem_nil
  | cons p pairs ih =>
      intro b hnodup hmem
      rw [List.map_cons, List.nodup_cons] at hnodup
      rw [bindAll_cons]
      rcases List.mem_cons.mp hmem with rfl | hmem
      · -- No later pair has the name, so the value of this one stays.
        rw [get?_bindAll_of_not_mem pairs _ hnodup.1, get?_bind, if_pos rfl]
      · exact ih _ hnodup.2 hmem

theorem bindAll_append (pairs more : List (String × Value)) (b : Bindings) :
    b.bindAll (pairs ++ more) = (b.bindAll pairs).bindAll more := List.foldl_append

/-- **Of names that come once, the new ones stand behind those before them, in their order.** -/
theorem names_bindAll_filter (pairs : List (String × Value)) :
    ∀ b : Bindings, (pairs.map Prod.fst).Nodup →
      (b.bindAll pairs).names = b.names ++ (pairs.map Prod.fst).filter fun n => n ∉ b.names := by
  induction pairs with
  | nil => intro b _; exact (List.append_nil b.names).symm
  | cons p pairs ih =>
      intro b hnodup
      rw [List.map_cons, List.nodup_cons] at hnodup
      rw [bindAll_cons, ih _ hnodup.2, names_bind, List.map_cons]
      by_cases hmem : p.1 ∈ b.names
      · rw [if_pos hmem, List.filter_cons_of_neg (by simpa using hmem)]
      · -- The name comes once, so none of those behind it is the one that is new now.
        have hothers : (pairs.map Prod.fst).filter (fun n => n ∉ b.names ++ [p.1]) =
            (pairs.map Prod.fst).filter fun n => n ∉ b.names := by
          refine List.filter_congr fun n hn => ?_
          have hne : n ≠ p.1 := fun e => hnodup.1 (e ▸ hn)
          simp [hne]
        rw [if_neg hmem, List.filter_cons_of_pos (by simpa using hmem), hothers, List.append_assoc,
          List.singleton_append]

/-- Names that come once and are new stand behind those before them. -/
theorem names_bindAll (pairs : List (String × Value)) (b : Bindings)
    (hnodup : (b.names ++ pairs.map Prod.fst).Nodup) :
    (b.bindAll pairs).names = b.names ++ pairs.map Prod.fst := by
  obtain ⟨-, hpairs, hnew⟩ := List.nodup_append.mp hnodup
  rw [names_bindAll_filter pairs b hpairs, List.filter_eq_self.mpr]
  intro n hn
  exact decide_eq_true fun hmem => hnew n hmem n hn rfl

end Fanout.Bindings
