/-
  Fanout.Proofs.Enumeration
  ─────────────────────────
  **The combinations are all of them, in order.**

  A combination picks one position from each list of values, and its number
  has the positions as its digits, the sizes of the lists being the bases.
  Making a number of its digits undoes the picking, and of two numbers the
  smaller one has the digits that come first:

    • `positions_ordinal`, `within_positions` — the numbers below the volume
      pick exactly the positions that are within the lists,
    • `positions_lt` — in lexicographic order,
    • `decode?_eq`, `combinations?_eq` — the loop that takes the digits from
      the last list on divides by no zero and reads no list beyond its end,
    • `enumerates_combinations` — the main statement.
-/
import Fanout.Proofs.Combination
import Mathlib.Data.List.Forall2
import Mathlib.Data.List.Nodup

namespace Fanout

/-! ## §1. Positions and numbers. -/

/-- One position for each variable, each within its list of values. -/
def Within (vars : List Variable) (ps : List Nat) : Prop :=
  List.Forall₂ (fun v p => p < v.values.length) vars ps

/-- The number, from 0, whose digits are positions. -/
def ordinal : List Variable → List Nat → Nat
  | _ :: vars, p :: ps => p * combinationVolume vars + ordinal vars ps
  | _, _ => 0

/-- Digits below their bases make a number below the volume. -/
theorem ordinal_lt {vars : List Variable} {ps : List Nat} (h : Within vars ps) :
    ordinal vars ps < combinationVolume vars := by
  induction h with
  | nil => exact Nat.one_pos
  | @cons v p vars ps hp _ ih =>
      rw [ordinal, combinationVolume_cons]
      calc p * combinationVolume vars + ordinal vars ps
          < p * combinationVolume vars + combinationVolume vars := Nat.add_lt_add_left ih _
        _ = (p + 1) * combinationVolume vars := (Nat.succ_mul _ _).symm
        _ ≤ v.values.length * combinationVolume vars := Nat.mul_le_mul_right _ hp

/-- **The digits of a number made of positions are these positions.** -/
theorem positions_ordinal {vars : List Variable} {ps : List Nat} (h : Within vars ps) :
    positions vars (ordinal vars ps) = ps := by
  induction h with
  | nil => rfl
  | @cons v p vars ps _ hps ih =>
      have hlt := ordinal_lt hps
      have hpos : 0 < combinationVolume vars := Nat.zero_lt_of_lt hlt
      have hdiv : (p * combinationVolume vars + ordinal vars ps) / combinationVolume vars = p := by
        rw [Nat.add_comm, Nat.add_mul_div_right _ _ hpos, Nat.div_eq_of_lt hlt, Nat.zero_add]
      have hmod : (p * combinationVolume vars + ordinal vars ps) % combinationVolume vars =
          ordinal vars ps := by
        rw [Nat.mul_add_mod_self_right, Nat.mod_eq_of_lt hlt]
      rw [ordinal, positions_cons, hdiv, hmod, ih]

/-- **A number below the volume picks a position within every list.** -/
theorem within_positions (vars : List Variable) :
    ∀ {n : Nat}, n < combinationVolume vars → Within vars (positions vars n) := by
  induction vars with
  | nil => intro n _; exact List.Forall₂.nil
  | cons v vars ih =>
      intro n hn
      obtain ⟨hfirst, hrest⟩ := digits_lt hn
      exact List.Forall₂.cons hfirst (ih hrest)

/-- **The smaller of two numbers picks the positions that come first**, compared list by list
from the first variable on. -/
theorem positions_lt (vars : List Variable) :
    ∀ {m n : Nat}, m < n → n < combinationVolume vars → positions vars m < positions vars n := by
  induction vars with
  | nil =>
      intro m n hlt hn
      rw [combinationVolume_nil] at hn
      omega
  | cons v vars ih =>
      intro m n hlt hn
      have hrest := (digits_lt hn).2
      rw [positions_cons, positions_cons, List.cons_lt_cons_iff]
      have hle : m / combinationVolume vars ≤ n / combinationVolume vars :=
        Nat.div_le_div_right (Nat.le_of_lt hlt)
      rcases Nat.lt_or_eq_of_le hle with hdiv | hdiv
      · exact Or.inl hdiv
      · -- With the same first digit the numbers differ behind it, the same way around.
        have hm := Nat.div_add_mod m (combinationVolume vars)
        have hn' := Nat.div_add_mod n (combinationVolume vars)
        rw [hdiv] at hm
        exact Or.inr ⟨hdiv, ih (by omega) hrest⟩

/-- The choices of positions of the numbers below a bound, in order. -/
def tuples (vars : List Variable) (n : Nat) : List (List Nat) :=
  (List.range n).map (positions vars)

theorem length_tuples (vars : List Variable) (n : Nat) : (tuples vars n).length = n := by
  rw [tuples, List.length_map, List.length_range]

/-- At each place stand the positions that the place picks. -/
theorem getElem?_tuples_eq_some_iff {vars : List Variable} {n i : Nat} {ps : List Nat} :
    (tuples vars n)[i]? = some ps ↔ i < n ∧ positions vars i = ps := by
  rw [tuples, List.getElem?_eq_some_iff]
  simp only [List.length_map, List.length_range, List.getElem_map, List.getElem_range,
    exists_prop]

/-- The numbers below the volume pick all positions that are within the lists. -/
theorem mem_tuples_iff {vars : List Variable} {ps : List Nat} :
    ps ∈ tuples vars (combinationVolume vars) ↔ Within vars ps := by
  unfold tuples
  rw [List.mem_map]
  constructor
  · rintro ⟨n, hn, rfl⟩
    exact within_positions vars (List.mem_range.mp hn)
  · intro h
    exact ⟨ordinal vars ps, List.mem_range.mpr (ordinal_lt h), positions_ordinal h⟩

theorem pairwise_tuples (vars : List Variable) :
    (tuples vars (combinationVolume vars)).Pairwise (· < ·) := by
  unfold tuples
  rw [List.pairwise_map]
  refine List.pairwise_lt_range.imp_of_mem ?_
  intro m n _ hn hlt
  exact positions_lt vars hlt (List.mem_range.mp hn)

/-! ## §2. The loop over the digits. -/

/-- The remainder and the quotient by the size of a list; nothing where the size is zero. -/
def digit? (size n : Nat) : Option (Nat × Nat) :=
  if size = 0 then none else some (n % size, n / size)

/-- The positions that a number picks, taken from the last list on, with what is left of the
number; nothing where a size is zero. -/
def decode? : List Variable → Nat → Option (List Nat × Nat)
  | [], n => some ([], n)
  | v :: vars, n => do
    let (ps, rest) ← decode? vars n
    let (p, left) ← digit? v.values.length rest
    return (p :: ps, left)

/-- Binds each variable to its value at its position; nothing where the list of its values is
not that long. -/
def bindAt? : Bindings → List Variable → List Nat → Option Bindings
  | b, v :: vars, p :: ps => do
    let value ← v.values[p]?
    bindAt? (b.bind v.name value) vars ps
  | b, _, _ => some b

/-- The combination with a number from 0; nothing where taking its digits divides by zero or
a position is beyond the values of its variable. -/
def combination? (vars : List Variable) (n : Nat) : Option Combination := do
  let (ps, _) ← decode? vars n
  let b ← bindAt? Bindings.empty vars ps
  return ⟨n + 1, b⟩

/-- All combinations; nothing where one of them fails. -/
def combinations? (vars : List Variable) : Option (List Combination) :=
  (List.range ((combinationCount? vars).getD 0)).mapM (combination? vars)

/-- Where no list is empty, no size is zero, and the digits are those of the number below the
volume. -/
theorem decode?_eq (vars : List Variable) :
    ∀ n : Nat, 0 < combinationVolume vars →
      decode? vars n =
        some (positions vars (n % combinationVolume vars), n / combinationVolume vars) := by
  induction vars with
  | nil =>
      intro n _
      rw [combinationVolume_nil, Nat.div_one]
      rfl
  | cons v vars ih =>
      intro n hpos
      rw [combinationVolume_cons] at hpos ⊢
      have hvars : 0 < combinationVolume vars := Nat.pos_of_mul_pos_left hpos
      have hsize : v.values.length ≠ 0 := Nat.ne_of_gt (Nat.pos_of_mul_pos_right hpos)
      have hdigit : digit? v.values.length (n / combinationVolume vars) =
          some (n / combinationVolume vars % v.values.length,
            n / combinationVolume vars / v.values.length) := if_neg hsize
      rw [decode?, ih n hvars]
      show (digit? v.values.length (n / combinationVolume vars)).bind _ = _
      rw [hdigit, positions_cons, Nat.mod_mul_left_div_self, Nat.mod_mul_left_mod,
        Nat.div_div_eq_div_mul, Nat.mul_comm (combinationVolume vars)]
      rfl

/-- Positions within the lists bind what is picked. -/
theorem bindAt?_eq (vars : List Variable) :
    ∀ (b : Bindings) {n : Nat}, n < combinationVolume vars →
      bindAt? b vars (positions vars n) = some (b.bindAll (picked vars n)) := by
  induction vars with
  | nil => intro b n _; rfl
  | cons v vars ih =>
      intro b n hn
      obtain ⟨hfirst, hrest⟩ := digits_lt hn
      have hvalue := List.getElem?_eq_getElem hfirst
      rw [positions_cons, bindAt?, hvalue, picked_cons hvalue, Bindings.bindAll_cons]
      exact ih _ hrest

/-- The loop ends for every number below the volume. -/
theorem combination?_eq {vars : List Variable} {n : Nat} (hn : n < combinationVolume vars) :
    combination? vars n = some (combinationAt vars n) := by
  unfold combination?
  rw [decode?_eq vars n (Nat.zero_lt_of_lt hn), Nat.mod_eq_of_lt hn]
  show (bindAt? Bindings.empty vars (positions vars n)).bind _ = _
  rw [bindAt?_eq vars Bindings.empty hn]
  rfl

/-- A function that gives a value for every member gives the list of these values. -/
theorem mapM_eq_some {α β : Type} {f : α → Option β} {g : α → β} (l : List α) :
    (∀ a ∈ l, f a = some (g a)) → l.mapM f = some (l.map g) := by
  induction l with
  | nil => intro _; rfl
  | cons a l ih =>
      intro h
      rw [List.mapM_cons, h a List.mem_cons_self, ih fun b hb => h b (List.mem_cons_of_mem a hb)]
      rfl

/-- **Whatever the lists of values, no division is by zero and no list is read beyond its
end.** -/
theorem combinations?_eq (vars : List Variable) :
    combinations? vars = some (combinations vars) := by
  refine mapM_eq_some _ fun n hn => combination?_eq ?_
  rw [List.mem_range] at hn
  cases hcount : combinationCount? vars with
  | none =>
      rw [hcount] at hn
      exact absurd hn (Nat.not_lt_zero n)
  | some count =>
      rw [hcount, Option.getD_some] at hn
      rwa [← (eq_of_combinationCount? hcount).1]

/-! ## §3. The enumeration. -/

/-- Bindings of all variables in the order of their declaration, each to its value at its
position. -/
structure BindsAt (vars : List Variable) (ps : List Nat) (b : Bindings) : Prop where
  /-- The names are those of the variables. -/
  names : b.names = vars.map fun v => v.name
  /-- Each name has the value at its position. -/
  value : ∀ {j : Nat} {v : Variable}, vars[j]? = some v →
    ∃ position value, ps[j]? = some position ∧ v.values[position]? = some value ∧
      b.get? v.name = some value

/-- Combinations that are the product of the lists of values, the last list changing
fastest. -/
structure Enumerates (vars : List Variable) (ts : List (List Nat)) (combos : List Combination) :
    Prop where
  /-- There is one combination for each choice of positions. -/
  length : combos.length = ts.length
  /-- Each has its place, from 1, as its number, and binds the variables to its choice. -/
  nth : ∀ {i : Nat} {ps : List Nat}, ts[i]? = some ps →
    ∃ b, combos[i]? = some ⟨i + 1, b⟩ ∧ BindsAt vars ps b
  /-- The choices are all that there are. -/
  complete : ∀ ps, ps ∈ ts ↔ Within vars ps
  /-- They come in lexicographic order, each of them once. -/
  increasing : ts.Pairwise (· < ·)

theorem bindsAt_combinationAt {vars : List Variable} (hnodup : (vars.map fun v => v.name).Nodup)
    {n : Nat} (hn : n < combinationVolume vars) :
    BindsAt vars (positions vars n) (combinationAt vars n).bindings where
  names := by
    have hpicked : ((picked vars n).map Prod.fst).Nodup := by rwa [map_fst_picked vars hn]
    rw [← map_fst_picked vars hn]
    exact Bindings.names_bindAll (picked vars n) Bindings.empty hpicked
  value := get?_combinationAt hn hnodup

/-- **The combinations are the product of the lists of values in lexicographic order.** If
there is a count, there are so many combinations, one for each choice of a position from each
list; if there is none, there are no combinations.  In no case is a division by zero or a list
read beyond its end. -/
theorem enumerates_combinations (vars : List Variable) :
    (∀ n, combinationCount? vars = some n → (vars.map fun v => v.name).Nodup →
        (combinations vars).length = n ∧
          Enumerates vars (tuples vars n) (combinations vars)) ∧
      (combinationCount? vars = none → combinations vars = []) ∧
      combinations? vars = some (combinations vars) := by
  refine ⟨?_, ?_, combinations?_eq vars⟩
  · intro n hcount hnodup
    have hall := combinations_of_count hcount
    obtain ⟨rfl, -⟩ := eq_of_combinationCount? hcount
    have hlength : (combinations vars).length = combinationVolume vars := by
      rw [hall, List.length_map, List.length_range]
    refine ⟨hlength, ?_, ?_, fun ps => mem_tuples_iff, pairwise_tuples vars⟩
    · rw [hlength, length_tuples]
    · intro i ps hps
      obtain ⟨hi, rfl⟩ := getElem?_tuples_eq_some_iff.mp hps
      refine ⟨(combinationAt vars i).bindings, ?_, bindsAt_combinationAt hnodup hi⟩
      rw [hall, List.getElem?_map, List.getElem?_range hi]
      rfl
  · intro hcount
    unfold combinations
    rw [hcount]
    rfl

/-- Two variables, with two values and with three. -/
def twoByThree : List Variable :=
  [⟨"a", .typed, [.int 1, .int 2], 1⟩, ⟨"b", .typed, [.int 10, .int 20, .int 30], 2⟩]

/-- A variable that is on or off. -/
def switchNamed (name : String) : Variable := ⟨name, .typed, [.bool false, .bool true], 1⟩

/-- So many switches that they have more than a million combinations. -/
def switches : List Variable :=
  ["a", "b", "c", "d", "e", "f", "g", "h", "i", "j", "k", "l", "m", "n", "o", "p", "q", "r", "s",
    "t"].map switchNamed

theorem enumerates_twoByThree :
    (combinations twoByThree).length = 6 ∧
      Enumerates twoByThree [[0, 0], [0, 1], [0, 2], [1, 0], [1, 1], [1, 2]]
        (combinations twoByThree) ∧
      combinations switches = [] := by
  have hnone : combinationCount? switches = none := by decide
  obtain ⟨hcount, -, -⟩ := enumerates_combinations twoByThree
  obtain ⟨-, hswitches, -⟩ := enumerates_combinations switches
  obtain ⟨hlength, hpair⟩ := hcount 6 rfl (by decide)
  exact ⟨hlength, hpair, hswitches hnone⟩

end Fanout
