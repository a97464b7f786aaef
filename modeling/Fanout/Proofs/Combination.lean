/-
  Fanout.Proofs.Combination
  ─────────────────────────
  **Counting and picking.**

  As long as no list of values is empty, no product of some of their sizes
  is larger than the product of all, so the count fails only where there
  are too many combinations.  A number below the count picks a value from
  every list.

    • `combinationCount?_eq`, `eq_of_combinationCount?` — the count is the
      volume,
    • `exists_picked` — every variable has its picked value,
    • `map_fst_picked` — and nothing else is picked.
-/
import Fanout.Combination
import Fanout.Proofs.Bindings

namespace Fanout

/-! ## §1. Counting. -/

/-- The number of combinations of variables, however large. -/
def combinationVolume (vars : List Variable) : Nat := volume (vars.map fun v => v.values.length)

@[simp] theorem combinationVolume_nil : combinationVolume [] = 1 := rfl

@[simp] theorem combinationVolume_cons (v : Variable) (vars : List Variable) :
    combinationVolume (v :: vars) = v.values.length * combinationVolume vars := rfl

theorem combinationVolume_pos (vars : List Variable) :
    (∀ v ∈ vars, v.values ≠ []) → 0 < combinationVolume vars := by
  induction vars with
  | nil => intro _; exact Nat.one_pos
  | cons v vars ih =>
      intro h
      have hv : 0 < v.values.length := List.length_pos_iff.mpr (h v List.mem_cons_self)
      have hvars := ih fun u hu => h u (List.mem_cons_of_mem v hu)
      rw [combinationVolume_cons]
      exact Nat.mul_pos hv hvars

/-- Products that end within 64 bits stay within them on the way. -/
theorem sizesWithin_eq (vars : List Variable) :
    ∀ n : Nat, (∀ v ∈ vars, v.values ≠ []) → n * combinationVolume vars < Number.twoTo 64 →
      sizesWithin n vars = some (n * combinationVolume vars) := by
  induction vars with
  | nil =>
      intro n _ _
      rw [sizesWithin, combinationVolume_nil, Nat.mul_one]
  | cons v vars ih =>
      intro n hne hlt
      have hvars : ∀ u ∈ vars, u.values ≠ [] := fun u hu => hne u (List.mem_cons_of_mem v hu)
      rw [combinationVolume_cons, ← Nat.mul_assoc] at hlt ⊢
      -- The other lists have values, so the product up to here is no larger than the whole.
      have hstep : n * v.values.length < Number.twoTo 64 :=
        Nat.lt_of_le_of_lt (Nat.le_mul_of_pos_right _ (combinationVolume_pos vars hvars)) hlt
      rw [sizesWithin, timesWithin, if_pos hstep]
      exact ih _ hvars hlt

/-- **The count of combinations is their volume, up to the limit.** -/
theorem combinationCount?_eq {vars : List Variable} (hne : ∀ v ∈ vars, v.values ≠ [])
    (hle : combinationVolume vars ≤ maxCombinations) :
    combinationCount? vars = some (combinationVolume vars) := by
  have hlt : 1 * combinationVolume vars < Number.twoTo 64 := by
    rw [Nat.one_mul]
    exact Nat.lt_of_le_of_lt hle (by decide)
  unfold combinationCount?
  rw [sizesWithin_eq vars 1 hne hlt, Nat.one_mul]
  simp [hle]

/-- What comes of the sizes is their product. -/
theorem eq_of_sizesWithin (vars : List Variable) :
    ∀ {n m : Nat}, sizesWithin n vars = some m → m = n * combinationVolume vars := by
  induction vars with
  | nil =>
      intro n m h
      rw [combinationVolume_nil, Nat.mul_one]
      exact (Option.some.inj h).symm
  | cons v vars ih =>
      intro n m h
      rw [sizesWithin, timesWithin] at h
      by_cases hfits : n * v.values.length < Number.twoTo 64
      · rw [if_pos hfits] at h
        rw [combinationVolume_cons, ← Nat.mul_assoc]
        exact ih h
      · rw [if_neg hfits] at h
        cases h

/-- A count is the volume, and within the limit. -/
theorem eq_of_combinationCount? {vars : List Variable} {n : Nat}
    (h : combinationCount? vars = some n) :
    n = combinationVolume vars ∧ combinationVolume vars ≤ maxCombinations := by
  obtain ⟨hsizes, hle⟩ := Option.filter_eq_some_iff.mp h
  have heq := eq_of_sizesWithin vars hsizes
  rw [Nat.one_mul] at heq
  rw [← heq]
  exact ⟨rfl, of_decide_eq_true hle⟩

/-- The combinations in the order of their numbers. -/
theorem combinations_of_count {vars : List Variable} {n : Nat}
    (h : combinationCount? vars = some n) :
    combinations vars = (List.range n).map (combinationAt vars) := by
  unfold combinations
  rw [h, Option.getD_some]

theorem combinations_eq {vars : List Variable} (hne : ∀ v ∈ vars, v.values ≠ [])
    (hle : combinationVolume vars ≤ maxCombinations) :
    combinations vars = (List.range (combinationVolume vars)).map (combinationAt vars) :=
  combinations_of_count (combinationCount?_eq hne hle)

/-! ## §2. Picking. -/

/-- The positions that the combination with a number from 0 picks for variables. -/
def positions (vars : List Variable) (n : Nat) : List Nat :=
  picks (vars.map fun v => v.values.length) n

theorem positions_cons (v : Variable) (vars : List Variable) (n : Nat) :
    positions (v :: vars) n =
      n / combinationVolume vars :: positions vars (n % combinationVolume vars) := rfl

theorem picked_cons {v : Variable} {vars : List Variable} {n : Nat} {value : Value}
    (h : v.values[n / combinationVolume vars]? = some value) :
    picked (v :: vars) n = (v.name, value) :: picked vars (n % combinationVolume vars) := by
  have hfirst : pickFrom v (n / combinationVolume vars) = some (v.name, value) := by
    rw [pickFrom, h]
    rfl
  show List.filterMap id (pickFrom v (n / combinationVolume vars) :: _) = _
  rw [hfirst]
  rfl

/-- The first digit of a number below the volume is a position in the first list, and the
rest of the number is below the volume of the others. -/
theorem digits_lt {v : Variable} {vars : List Variable} {n : Nat}
    (h : n < combinationVolume (v :: vars)) :
    n / combinationVolume vars < v.values.length ∧
      n % combinationVolume vars < combinationVolume vars := by
  rw [combinationVolume_cons] at h
  have hpos : 0 < combinationVolume vars := by
    refine Nat.pos_of_ne_zero fun hzero => ?_
    rw [hzero, Nat.mul_zero] at h
    exact Nat.not_lt_zero n h
  exact ⟨(Nat.div_lt_iff_lt_mul hpos).mpr h, Nat.mod_lt n hpos⟩

/-- **Every variable has a value in every combination.** -/
theorem exists_picked (vars : List Variable) :
    ∀ {n : Nat}, n < combinationVolume vars → ∀ {j : Nat} {v : Variable}, vars[j]? = some v →
      ∃ position value, (positions vars n)[j]? = some position ∧
        v.values[position]? = some value ∧ (v.name, value) ∈ picked vars n := by
  induction vars with
  | nil => intro n _ j v hv; cases hv
  | cons v vars ih =>
      intro n hn j u hu
      obtain ⟨hfirst, hrest⟩ := digits_lt hn
      have hvalue : v.values[n / combinationVolume vars]? = some _ :=
        List.getElem?_eq_getElem hfirst
      rw [positions_cons, picked_cons hvalue]
      cases j with
      | zero =>
          obtain rfl : v = u := by simpa using hu
          exact ⟨_, _, rfl, hvalue, List.mem_cons_self⟩
      | succ j =>
          have hu' : vars[j]? = some u := by simpa using hu
          obtain ⟨position, value, hposition, hpicked, hmem⟩ := ih hrest hu'
          exact ⟨position, value, by simpa using hposition, hpicked, List.mem_cons_of_mem _ hmem⟩

/-- What is picked are the names of the variables, in order. -/
theorem map_fst_picked (vars : List Variable) :
    ∀ {n : Nat}, n < combinationVolume vars →
      (picked vars n).map Prod.fst = vars.map fun v => v.name := by
  induction vars with
  | nil => intro n _; rfl
  | cons v vars ih =>
      intro n hn
      obtain ⟨hfirst, hrest⟩ := digits_lt hn
      rw [picked_cons (List.getElem?_eq_getElem hfirst), List.map_cons, List.map_cons, ih hrest]

/-! ## §3. Bindings. -/

/-- **A combination binds every variable to its picked value**, as long as no two have the
same name. -/
theorem get?_combinationAt {vars : List Variable} {n : Nat} (hn : n < combinationVolume vars)
    (hnodup : (vars.map fun v => v.name).Nodup) {j : Nat} {v : Variable}
    (hv : vars[j]? = some v) :
    ∃ position value, (positions vars n)[j]? = some position ∧
      v.values[position]? = some value ∧
        (combinationAt vars n).bindings.get? v.name = some value := by
  obtain ⟨position, value, hposition, hvalue, hmem⟩ := exists_picked vars hn hv
  refine ⟨position, value, hposition, hvalue, ?_⟩
  exact Bindings.get?_bindAll_of_mem _ _ (by rw [map_fst_picked vars hn]; exact hnodup) hmem

end Fanout
