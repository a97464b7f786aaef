/-
  Fanout.Proofs.Count
  ───────────────────
  **The count of combinations, and the lists of values for which it is lost.**

  The sizes are multiplied from the first list to the last one, and a product
  that takes more than 64 bits ends the count.  Behind such a product an
  empty list comes too late: the number of combinations is 0, and still they
  are refused as too many.

    • `sizesWithin_eq_none_iff`, `combinationCount?_eq_none_iff` — what ends
      the count,
    • `Outgrown` — an empty list comes too late,
    • `count_exact_iff` — in all other cases the count is exact, in whatever
      order the variables stand.
-/
import Fanout.Proofs.Combination
import Mathlib.Algebra.BigOperators.Group.List.Basic

namespace Fanout

/-! ## §1. Products. -/

theorem combinationVolume_eq_prod (vars : List Variable) :
    combinationVolume vars = (vars.map fun v => v.values.length).prod := rfl

theorem combinationVolume_append (before behind : List Variable) :
    combinationVolume (before ++ behind) = combinationVolume before * combinationVolume behind := by
  rw [combinationVolume_eq_prod, List.map_append, List.prod_append]
  rfl

/-- The order of the variables makes no difference. -/
theorem combinationVolume_perm {vars others : List Variable} (h : vars.Perm others) :
    combinationVolume others = combinationVolume vars := by
  rw [combinationVolume_eq_prod, combinationVolume_eq_prod]
  exact (h.map fun v => v.values.length).prod_eq.symm

/-- There is no combination if a list of values is empty. -/
theorem combinationVolume_eq_zero_iff {vars : List Variable} :
    combinationVolume vars = 0 ↔ ∃ v ∈ vars, v.values = [] := by
  induction vars with
  | nil => simp
  | cons v vars ih =>
      rw [combinationVolume_cons, Nat.mul_eq_zero, ih, List.length_eq_zero_iff,
        List.exists_mem_cons_iff]

/-! ## §2. What ends the count. -/

/-- **The product of the sizes is lost where the first lists have a product of more than 64
bits.** -/
theorem sizesWithin_eq_none_iff (vars : List Variable) :
    ∀ {n : Nat}, n < 2 ^ 64 →
      (sizesWithin n vars = none ↔ ∃ k, 2 ^ 64 ≤ n * combinationVolume (vars.take k)) := by
  induction vars with
  | nil =>
      intro n hn
      refine iff_of_false (by simp [sizesWithin]) ?_
      rintro ⟨k, hk⟩
      rw [List.take_nil, combinationVolume_nil, Nat.mul_one] at hk
      omega
  | cons v vars ih =>
      intro n hn
      rw [sizesWithin, timesWithin]
      by_cases hfits : n * v.values.length < 2 ^ 64
      · -- No more than the first list is multiplied yet, so a product that is lost takes it in.
        rw [if_pos (show _ < Number.twoTo 64 from hfits)]
        rw [ih hfits]
        constructor
        · rintro ⟨k, hk⟩
          refine ⟨k + 1, ?_⟩
          rw [List.take_succ_cons, combinationVolume_cons, ← Nat.mul_assoc]
          exact hk
        · rintro ⟨k, hk⟩
          cases k with
          | zero =>
              rw [List.take_zero, combinationVolume_nil, Nat.mul_one] at hk
              omega
          | succ k =>
              rw [List.take_succ_cons, combinationVolume_cons, ← Nat.mul_assoc] at hk
              exact ⟨k, hk⟩
      · rw [if_neg (show ¬ _ < Number.twoTo 64 from hfits)]
        refine iff_of_true rfl ⟨1, ?_⟩
        rw [List.take_succ_cons, List.take_zero, combinationVolume_cons, combinationVolume_nil,
          Nat.mul_one]
        exact Nat.le_of_not_lt hfits

/-- **There is no count if there are too many combinations of all or of the first variables.** -/
theorem combinationCount?_eq_none_iff {vars : List Variable} :
    combinationCount? vars = none ↔
      (∃ k, 2 ^ 64 ≤ combinationVolume (vars.take k)) ∨ maxCombinations < combinationVolume vars := by
  have hnone := sizesWithin_eq_none_iff vars (n := 1) (by decide)
  simp only [Nat.one_mul] at hnone
  rw [← hnone, combinationCount?]
  cases hsizes : sizesWithin 1 vars with
  | none => simp
  | some n =>
      have hn := eq_of_sizesWithin vars hsizes
      rw [Nat.one_mul] at hn
      simp [Option.filter_eq_none_iff, hn]

/-! ## §3. Where the count is exact. -/

/-- The number of combinations, unless there are more than the limit. -/
def exactCount (vars : List Variable) : Option Nat :=
  if combinationVolume vars ≤ maxCombinations then some (combinationVolume vars) else none

/-- An empty list of values stands behind lists whose sizes have a product of more than 64 bits. -/
def Outgrown (vars : List Variable) : Prop :=
  ∃ before v behind, vars = before ++ v :: behind ∧ v.values = [] ∧
    2 ^ 64 ≤ combinationVolume before

/-- There is no combination where a list comes too late. -/
theorem Outgrown.exactCount_eq {vars : List Variable} (h : Outgrown vars) :
    exactCount vars = some 0 := by
  obtain ⟨before, v, behind, rfl, hempty, -⟩ := h
  have hzero : combinationVolume (before ++ v :: behind) = 0 :=
    combinationVolume_eq_zero_iff.mpr ⟨v, List.mem_append_right _ List.mem_cons_self, hempty⟩
  rw [exactCount, hzero]
  rfl

/-- And still they are too many. -/
theorem Outgrown.combinationCount?_eq {vars : List Variable} (h : Outgrown vars) :
    combinationCount? vars = none := by
  obtain ⟨before, v, behind, rfl, -, hlarge⟩ := h
  refine combinationCount?_eq_none_iff.mpr (.inl ⟨before.length, ?_⟩)
  rw [List.take_left]
  exact hlarge

/-- Where the product of the first lists takes more than 64 bits and the one of all does not, an
empty list comes too late. -/
theorem outgrown_of_take {vars : List Variable} {k : Nat}
    (hlarge : 2 ^ 64 ≤ combinationVolume (vars.take k))
    (hsmall : combinationVolume vars ≤ maxCombinations) : Outgrown vars := by
  have hsplit : combinationVolume vars =
      combinationVolume (vars.take k) * combinationVolume (vars.drop k) := by
    rw [← combinationVolume_append, List.take_append_drop]
  have hzero : combinationVolume (vars.drop k) = 0 := by
    by_contra hne
    have hle := Nat.le_mul_of_pos_right (combinationVolume (vars.take k)) (Nat.pos_of_ne_zero hne)
    unfold maxCombinations at hsmall
    omega
  obtain ⟨v, hv, hempty⟩ := combinationVolume_eq_zero_iff.mp hzero
  obtain ⟨u, hfirst⟩ : ∃ u, (vars.drop k).find? (fun v => v.values.isEmpty) = some u :=
    Option.isSome_iff_exists.mp (List.find?_isSome.mpr ⟨v, hv, List.isEmpty_iff.mpr hempty⟩)
  obtain ⟨hu, between, behind, hrest, hbetween⟩ := List.find?_eq_some_iff_append.mp hfirst
  -- The lists in front of the first empty one keep the product as large as it is.
  have hpos : 0 < combinationVolume between :=
    combinationVolume_pos between fun w hw => by simpa using hbetween w hw
  refine ⟨vars.take k ++ between, u, behind, ?_, List.isEmpty_iff.mp hu, ?_⟩
  · rw [List.append_assoc, ← hrest, List.take_append_drop]
  · rw [combinationVolume_append]
    exact Nat.le_trans hlarge (Nat.le_mul_of_pos_right _ hpos)

/-- **The count is exact unless an empty list comes too late**, and then it is lost. -/
theorem combinationCount?_eq_exactCount_iff {vars : List Variable} :
    combinationCount? vars = exactCount vars ↔ ¬ Outgrown vars := by
  constructor
  · intro heq hout
    rw [hout.combinationCount?_eq, hout.exactCount_eq] at heq
    cases heq
  · intro hnot
    unfold exactCount
    by_cases hsmall : combinationVolume vars ≤ maxCombinations
    · rw [if_pos hsmall]
      cases hcount : combinationCount? vars with
      | some n => rw [(eq_of_combinationCount? hcount).1]
      | none =>
          rcases combinationCount?_eq_none_iff.mp hcount with ⟨k, hk⟩ | hlarge
          · exact absurd (outgrown_of_take hk hsmall) hnot
          · omega
    · rw [if_neg hsmall]
      exact combinationCount?_eq_none_iff.mpr (.inr (Nat.lt_of_not_le hsmall))

/-- **The count of combinations is the product of the sizes, refused beyond the limit, unless an
empty list of values stands behind lists whose product takes more than 64 bits**: there it is
refused although there is no combination.  Variables in another order have as many combinations,
and their count differs only where an empty list comes too late in one order and not in the
other; without an empty list it never does. -/
theorem count_exact_iff (vars : List Variable) :
    (combinationCount? vars = exactCount vars ↔ ¬ Outgrown vars) ∧
      (Outgrown vars → exactCount vars = some 0 ∧ combinationCount? vars = none) ∧
      ((∀ v ∈ vars, v.values ≠ []) → ¬ Outgrown vars) ∧
      ∀ others, vars.Perm others → exactCount others = exactCount vars ∧
        (combinationCount? others = combinationCount? vars ↔ (Outgrown others ↔ Outgrown vars)) := by
  refine ⟨combinationCount?_eq_exactCount_iff, fun h => ⟨h.exactCount_eq, h.combinationCount?_eq⟩, ?_, ?_⟩
  · rintro hne ⟨before, v, behind, rfl, hempty, -⟩
    exact hne v (List.mem_append_right _ List.mem_cons_self) hempty
  · intro others hperm
    have hsame : exactCount others = exactCount vars := by
      rw [exactCount, exactCount, combinationVolume_perm hperm]
    refine ⟨hsame, ?_⟩
    by_cases hvars : Outgrown vars <;> by_cases hothers : Outgrown others
    · simp [hvars, hothers, hvars.combinationCount?_eq, hothers.combinationCount?_eq]
    · have hcount := combinationCount?_eq_exactCount_iff.mpr hothers
      rw [hcount, hsame, hvars.combinationCount?_eq, hvars.exactCount_eq]
      simp [hvars, hothers]
    · have hcount := combinationCount?_eq_exactCount_iff.mpr hvars
      rw [hcount, ← hsame, hothers.combinationCount?_eq, hothers.exactCount_eq]
      simp [hvars, hothers]
    · rw [combinationCount?_eq_exactCount_iff.mpr hvars,
        combinationCount?_eq_exactCount_iff.mpr hothers, hsame]
      simp [hvars, hothers]

/-- Variables with two values each. -/
def coins (n : Nat) : List Variable :=
  (List.range n).map fun k => ⟨"coin" ++ Expr.countText k, .typed, [.int 0, .int 1], 1⟩

/-- A variable without values. -/
def blank : Variable := ⟨"blank", .typed, [], 1⟩

/-- Behind 64 lists of two values an empty list comes too late, in front of them it does not. -/
theorem count_exact_coins :
    Outgrown (coins 64 ++ [blank]) ∧ exactCount (coins 64 ++ [blank]) = some 0 ∧
      combinationCount? (coins 64 ++ [blank]) = none ∧
      combinationCount? (blank :: coins 64) = some 0 ∧
      combinationCount? (blank :: coins 64) ≠ combinationCount? (coins 64 ++ [blank]) := by
  have hlate : Outgrown (coins 64 ++ [blank]) :=
    ⟨coins 64, blank, [], rfl, rfl, by decide +kernel⟩
  have hearly : combinationCount? (blank :: coins 64) = some 0 := by decide +kernel
  obtain ⟨-, hlost, -, hothers⟩ := count_exact_iff (coins 64 ++ [blank])
  obtain ⟨-, hnone⟩ := hlost hlate
  obtain ⟨hexact, -⟩ := hothers _ (List.perm_append_singleton blank (coins 64))
  refine ⟨hlate, (hlost hlate).1, hnone, hearly, ?_⟩
  rw [hnone, hearly]
  exact Option.some_ne_none 0

end Fanout
