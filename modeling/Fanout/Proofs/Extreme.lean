/-
  Fanout.Proofs.Extreme
  ─────────────────────
  **The least and the greatest of some values.**

  `min` and `max` compare every further argument with the best one so far
  and with no other.  That is enough for texts, points in time and
  durations, whose orders are transitive.  Among numbers `≤` is not: a float
  can stand between an integer and a smaller one.  But then it equals both
  of them, and what replaces the best argument so far is never equal to it.

    • `Family` — values are ordered within four families and not across,
    • `order_trans_of_ne` — a strict step ahead of a weak one leads no
      further back than the weak one,
    • `extreme_step`, `extreme_spec` — the best argument so far withstands
      all arguments seen, and keeps doing so,
    • `extreme_eq_ok_iff` — there is one unless two arguments are of
      different families,
    • `callBuiltin_extremes` — both results for the functions themselves.
-/
import Fanout.Expr.Meaning
import Fanout.Proofs.Comparison
import Mathlib.Data.String.Basic

namespace Fanout

open Fanout.Number Fanout.Calendar Fanout.Expr

/-! ## §1. Transitive orders. -/

instance : Std.TransCmp textOrder := inferInstanceAs (Std.TransCmp (compare : String → String → _))

namespace Calendar

instance : Std.TransCmp Date.order :=
  inferInstanceAs (Std.TransCmp (compareLex (compareOn Date.year)
    (compareLex (compareOn Date.month) (compareOn Date.day))))

instance : Std.TransCmp fun s t : DateTime => s.date.order t.date where
  eq_swap := Std.OrientedCmp.eq_swap
  isLE_trans := Std.TransCmp.isLE_trans

instance : Std.TransCmp DateTime.order :=
  inferInstanceAs (Std.TransCmp (compareLex (fun s t : DateTime => s.date.order t.date)
    (compareLex (compareOn DateTime.second) (compareOn DateTime.nano))))

instance : Std.TransCmp Duration.order :=
  inferInstanceAs (Std.TransCmp (compareLex (compareOn fun d : Duration => d.seconds.toInt)
    (compareOn Duration.nanos)))

end Calendar

/-- Behind a step in one direction, a step that does not lead back does not lead back altogether. -/
theorem ne_swap_of_trans {α : Type} {cmp : α → α → Ordering} [Std.TransCmp cmp] {x y z : α}
    {d : Ordering} (hxy : cmp x y = d) (hyz : cmp y z ≠ d.swap) : cmp x z ≠ d.swap := by
  cases d with
  | lt =>
      have hle : (cmp x y).isLE = true := by rw [hxy]; rfl
      exact Ordering.isLE_iff_ne_gt.mp
        (Std.TransCmp.isLE_trans hle (Ordering.isLE_iff_ne_gt.mpr hyz))
  | eq => rwa [Std.TransCmp.congr_left hxy]
  | gt =>
      have hge : (cmp x y).isGE = true := by rw [hxy]; rfl
      exact Ordering.isGE_iff_ne_lt.mp
        (Std.TransCmp.isGE_trans hge (Ordering.isGE_iff_ne_lt.mpr hyz))

namespace Numeric

variable {x y z : Numeric}

/-- Two integers that a float is nearest to have the place of the float. -/
theorem Parts.place_eq (h : x.Parts y z) (hy : y.isNaN = false) :
    x.place y = y.place x ∧ y.place z = z.place y := by
  cases x <;> cases y <;> cases z <;> try exact h.elim
  next a y c =>
    exact ⟨(amount?_floatOfWord_eq_iff hy).mp h.2.1, ((amount?_floatOfWord_eq_iff hy).mp h.2.2).symm⟩

/-- **`≤` is transitive where one of two steps is strict.** -/
theorem place_le_trans_of_ne (hy : y.isNaN = false) (hxy : x.place y ≤ y.place x)
    (hyz : y.place z ≤ z.place y) (hne : x.place y ≠ y.place x ∨ y.place z ≠ z.place y) :
    x.place z ≤ z.place x := by
  refine (place_le_trans hy hxy hyz).mpr fun h => ?_
  obtain ⟨hleft, hright⟩ := h.1.place_eq hy
  exact hne.elim (fun hne => hne hleft) (fun hne => hne hright)

end Numeric

/-! ## §2. Families. -/

/-- The families of values that are ordered among themselves. -/
inductive Family where
  | number | text | time | span
  deriving DecidableEq

namespace Value

/-- The family of a value.  A function has none, and neither has the float that is no number. -/
def family? : Value → Option Family
  | .bool _ | .int _ => some .number
  | .float x => if Number.isNaN x then .none else some .number
  | .str _ => some .text
  | .dateTime _ => some .time
  | .duration _ => some .span
  | .none | .builtin _ => .none

variable {a b c : Value} {k : Family} {o d : Ordering}

/-- **Two values are ordered if they are of one family**, and only then. -/
theorem exists_order_iff :
    (∃ o, a.order b = some o) ↔ ∃ k, a.family? = some k ∧ b.family? = some k := by
  cases a <;> cases b <;>
    simp [Value.order, Value.numeric?, Value.family?, Numeric.order, Number.order,
      Numeric.toFloat, floatOfWord, isNaN_floatOfInt]

/-- The members of a family. -/
theorem cases_family (h : a.family? = some k) :
    match k with
    | .number => a.isNaN = false ∧ ∃ x, a.numeric? = some x
    | .text => ∃ s, a = .str s
    | .time => ∃ t, a = .dateTime t
    | .span => ∃ d, a = .duration d := by
  cases a with
  | none | builtin => cases h
  | bool | int =>
      cases h
      exact ⟨rfl, _, rfl⟩
  | float x =>
      cases hnan : Number.isNaN x with
      | true => simp [Value.family?, hnan] at h
      | false =>
          simp only [Value.family?, hnan, Bool.false_eq_true, if_false] at h
          cases h
          exact ⟨hnan, _, rfl⟩
  | str | dateTime | duration =>
      cases h
      exact ⟨_, rfl⟩

/-- **Behind a strict step in one direction, a step that does not lead back does not lead back
altogether.** -/
theorem order_trans_of_ne (hd : d ≠ .eq) (hab : a.order b = some d) (hbc : b.order c = some o)
    (ho : o ≠ d.swap) : ∃ e, a.order c = some e ∧ e ≠ d.swap := by
  obtain ⟨k, ha, hb⟩ := exists_order_iff.mp ⟨d, hab⟩
  obtain ⟨k', hb', hc⟩ := exists_order_iff.mp ⟨o, hbc⟩
  obtain rfl : k = k' := Option.some.inj (hb.symm.trans hb')
  have ha := cases_family ha
  have hb := cases_family hb
  have hc := cases_family hc
  cases k with
  | number =>
      obtain ⟨han, x, hx⟩ := ha
      obtain ⟨hbn, y, hy⟩ := hb
      obtain ⟨hcn, z, hz⟩ := hc
      rw [order_eq han hbn hx hy, Option.some_inj] at hab
      rw [order_eq hbn hcn hy hz, Option.some_inj] at hbc
      refine ⟨_, order_eq han hcn hx hz, ?_⟩
      have hyn : y.isNaN = false := isNaN_numeric hy ▸ hbn
      subst hbc
      cases d with
      | eq => exact absurd rfl hd
      | lt =>
          have hlt := compare_lt_iff_lt.mp hab
          exact compare_le_iff_le.mpr (Numeric.place_le_trans_of_ne hyn hlt.le
            (compare_le_iff_le.mp ho) (.inl hlt.ne))
      | gt =>
          -- Read backwards, the strict step is the second one.
          have hlt := compare_gt_iff_gt.mp hab
          exact compare_ge_iff_ge.mpr (Numeric.place_le_trans_of_ne hyn
            (compare_ge_iff_ge.mp ho) hlt.le (.inr hlt.ne))
  | text | time | span =>
      obtain ⟨s, rfl⟩ := ha
      obtain ⟨t, rfl⟩ := hb
      obtain ⟨u, rfl⟩ := hc
      cases hab
      cases hbc
      exact ⟨_, rfl, ne_swap_of_trans rfl ho⟩

/-- The order of two values reverses with them. -/
theorem order_swap (h : a.order b = some o) : b.order a = some o.swap := by
  obtain ⟨k, ha, hb⟩ := exists_order_iff.mp ⟨o, h⟩
  have ha := cases_family ha
  have hb := cases_family hb
  cases k with
  | number =>
      obtain ⟨han, x, hx⟩ := ha
      obtain ⟨hbn, y, hy⟩ := hb
      rw [order_eq han hbn hx hy, Option.some_inj] at h
      rw [order_eq hbn han hy hx, ← h, Int.compare_swap]
  | text | time | span =>
      obtain ⟨s, rfl⟩ := ha
      obtain ⟨t, rfl⟩ := hb
      cases h
      exact congrArg some Std.OrientedCmp.eq_swap

/-- A value of a family is in order with itself. -/
theorem order_self (h : a.family? = some k) : a.order a = some .eq := by
  have hself := cases_family h
  cases k with
  | number =>
      obtain ⟨han, x, hx⟩ := hself
      rw [order_eq han han hx hx, compare_eq_iff_eq.mpr rfl]
  | text | time | span =>
      obtain ⟨s, rfl⟩ := hself
      exact congrArg some Std.ReflCmp.compare_self

end Value

/-! ## §3. The best of some values. -/

namespace Expr

open Value

variable {a b c r : Value} {k : Family} {o wanted : Ordering} {f : Builtin} {rest seen : List Value}

/-- One value is not worse than another one, if `wanted` is better. -/
def Withstands (wanted : Ordering) (a b : Value) : Prop :=
  ∃ o, a.order b = some o ∧ o ≠ wanted.swap

theorem withstands_self (hw : wanted ≠ .eq) (h : a.family? = some k) : Withstands wanted a a :=
  ⟨.eq, order_self h, by cases wanted <;> first | exact absurd rfl hw | decide⟩

/-- **The better of the best value so far and a new one withstands both, and all that the best value
so far withstands.** -/
theorem extreme_step (hw : wanted ≠ .eq) (h : c.order b = some o) :
    Withstands wanted (if o = wanted then c else b) c ∧
      ∀ a, Withstands wanted b a → Withstands wanted (if o = wanted then c else b) a := by
  obtain ⟨k, hc, -⟩ := exists_order_iff.mp ⟨o, h⟩
  by_cases ho : o = wanted
  · rw [if_pos ho]
    refine ⟨withstands_self hw hc, fun a ⟨e, he, hne⟩ => ?_⟩
    exact order_trans_of_ne hw (ho ▸ h) he hne
  · rw [if_neg ho]
    refine ⟨⟨o.swap, order_swap h, fun hswap => ho ?_⟩, fun a ha => ha⟩
    exact Ordering.swap_inj.mp hswap

/-- **What is left over withstands all values**, those that were seen before as well. -/
theorem extreme_spec (hw : wanted ≠ .eq) (h : extreme f wanted b rest = .ok r)
    (hseen : ∀ a ∈ seen, Withstands wanted b a) :
    r ∈ b :: rest ∧ ∀ a ∈ seen ++ rest, Withstands wanted r a := by
  induction rest generalizing b seen with
  | nil =>
      cases h
      exact ⟨List.mem_singleton_self r, by rwa [List.append_nil]⟩
  | cons c rest ih =>
      rw [extreme] at h
      cases hcb : c.order b with
      | none =>
          rw [hcb] at h
          cases h
      | some o =>
          rw [hcb] at h
          obtain ⟨hnew, hold⟩ := extreme_step hw hcb
          have hstep : ∀ a ∈ seen ++ [c], Withstands wanted (if o = wanted then c else b) a := by
            intro a ha
            rcases List.mem_append.mp ha with ha | ha
            · exact hold a (hseen a ha)
            · exact List.mem_singleton.mp ha ▸ hnew
          obtain ⟨hmem, hall⟩ := ih h hstep
          refine ⟨?_, by rwa [List.append_assoc] at hall⟩
          rcases List.mem_cons.mp hmem with rfl | hmem
          · split
            · exact List.mem_cons_of_mem _ List.mem_cons_self
            · exact List.mem_cons_self
          · exact List.mem_cons_of_mem _ (List.mem_cons_of_mem _ hmem)

/-- **There is a best value unless one is of another family** than the first. -/
theorem extreme_eq_ok_iff (hb : b.family? = some k) :
    (∃ r, extreme f wanted b rest = .ok r) ↔ ∀ a ∈ rest, a.family? = some k := by
  induction rest generalizing b with
  | nil => exact iff_of_true ⟨b, rfl⟩ fun a ha => absurd ha List.not_mem_nil
  | cons c rest ih =>
      rw [extreme, List.forall_mem_cons]
      cases hcb : c.order b with
      | none =>
          refine iff_of_false (fun ⟨r, hr⟩ => by cases hr) fun h => ?_
          obtain ⟨o, ho⟩ := exists_order_iff.mpr ⟨k, h.1, hb⟩
          rw [hcb] at ho
          cases ho
      | some o =>
          obtain ⟨k', hc, hb'⟩ := exists_order_iff.mp ⟨o, hcb⟩
          obtain rfl : k = k' := Option.some.inj (hb.symm.trans hb')
          rw [and_iff_right hc]
          exact ih (by split <;> assumption)

/-! ## §4. `min` and `max`. -/

/-- A value is among some values, and its comparison with each of them holds. -/
structure IsExtreme (op : CompareOp) (args : List Value) (r : Value) : Prop where
  mem : r ∈ args
  holds : ∀ a ∈ args, comparison op r a = .ok true

theorem comparison_le_iff : comparison .le a b = .ok true ↔ Withstands .lt a b := by
  unfold comparison Withstands
  rcases a.order b with _ | _ | _ | _ <;> simp [CompareOp.holdsFor]

theorem comparison_ge_iff : comparison .ge a b = .ok true ↔ Withstands .gt a b := by
  unfold comparison Withstands
  rcases a.order b with _ | _ | _ | _ <;> simp [CompareOp.holdsFor]

/-- Two values at least are compared, each of them at least once. -/
theorem exists_family_of_extreme (h : extreme f wanted b (c :: rest) = .ok r) :
    ∃ k, b.family? = some k := by
  rw [extreme] at h
  cases hcb : c.order b with
  | none =>
      rw [hcb] at h
      cases h
  | some o =>
      obtain ⟨k, -, hb⟩ := exists_order_iff.mp ⟨o, hcb⟩
      exact ⟨k, hb⟩

theorem isExtreme_of_extreme {op : CompareOp} (hw : wanted ≠ .eq)
    (hop : ∀ a b, comparison op a b = .ok true ↔ Withstands wanted a b)
    (h : extreme f wanted b (c :: rest) = .ok r) : IsExtreme op (b :: c :: rest) r := by
  obtain ⟨k, hb⟩ := exists_family_of_extreme h
  have hseen : ∀ a ∈ [b], Withstands wanted b a := by
    intro a ha
    rw [List.mem_singleton.mp ha]
    exact withstands_self hw hb
  obtain ⟨hmem, hall⟩ := extreme_spec hw h hseen
  exact ⟨hmem, fun a ha => (hop r a).mpr (hall a ha)⟩

theorem exists_extreme_iff :
    (∃ r, extreme f wanted b (c :: rest) = .ok r) ↔ ∃ k, ∀ a ∈ b :: c :: rest, a.family? = some k := by
  constructor
  · rintro ⟨r, hr⟩
    obtain ⟨k, hb⟩ := exists_family_of_extreme hr
    exact ⟨k, List.forall_mem_cons.mpr ⟨hb, (extreme_eq_ok_iff hb).mp ⟨r, hr⟩⟩⟩
  · rintro ⟨k, hk⟩
    obtain ⟨hb, hrest⟩ := List.forall_mem_cons.mp hk
    exact (extreme_eq_ok_iff hb).mpr hrest

/-- Values of these kinds are of one family. -/
theorem exists_family_of_kind {kind : Kind} (h : kind ∈ [Kind.int, .str, .dateTime, .duration]) :
    ∃ k, ∀ a : Value, a.kind = kind → a.family? = some k := by
  have hall : ∀ k, (∀ a : Value, a.kind = kind → a.family? = some k) →
      ∃ k, ∀ a : Value, a.kind = kind → a.family? = some k := fun k hk => ⟨k, hk⟩
  simp only [List.mem_cons, List.not_mem_nil, or_false] at h
  rcases h with rfl | rfl | rfl | rfl
  · exact hall .number fun a ha => by cases a <;> cases ha; rfl
  · exact hall .text fun a ha => by cases a <;> cases ha; rfl
  · exact hall .time fun a ha => by cases a <;> cases ha; rfl
  · exact hall .span fun a ha => by cases a <;> cases ha; rfl

/-- **`min` and `max` of at least two values are the least and the greatest of them all**: the result
is one of the arguments, and its comparison with each of them holds.  There is a result exactly if
all arguments are of one family, so that integers, texts, points in time and durations always have
one among themselves. -/
theorem callBuiltin_extremes {args : List Value} (h : 2 ≤ args.length) :
    (∀ r, callBuiltin .min args = .ok r → IsExtreme .le args r) ∧
      (∀ r, callBuiltin .max args = .ok r → IsExtreme .ge args r) ∧
      ∀ f ∈ [Builtin.min, .max],
        ((∃ r, callBuiltin f args = .ok r) ↔ ∃ k, ∀ a ∈ args, a.family? = some k) ∧
          ∀ kind ∈ [Kind.int, .str, .dateTime, .duration], (∀ a ∈ args, a.kind = kind) →
            ∃ r, callBuiltin f args = .ok r := by
  obtain ⟨b, c, rest, rfl⟩ : ∃ b c rest, args = b :: c :: rest := by
    match args, h with
    | b :: c :: rest, _ => exact ⟨b, c, rest, rfl⟩
  have hresult : ∀ f ∈ [Builtin.min, .max],
      (∃ r, callBuiltin f (b :: c :: rest) = .ok r) ↔
        ∃ k, ∀ a ∈ b :: c :: rest, a.family? = some k := by
    intro f hf
    simp only [List.mem_cons, List.not_mem_nil, or_false] at hf
    rcases hf with rfl | rfl
    · show (∃ r, extreme .min .lt b (c :: rest) = .ok r) ↔ _
      exact exists_extreme_iff
    · show (∃ r, extreme .max .gt b (c :: rest) = .ok r) ↔ _
      exact exists_extreme_iff
  refine ⟨fun r hr => ?_, fun r hr => ?_, fun f hf => ⟨hresult f hf, ?_⟩⟩
  · exact isExtreme_of_extreme (by decide) (fun _ _ => comparison_le_iff) hr
  · exact isExtreme_of_extreme (by decide) (fun _ _ => comparison_ge_iff) hr
  · intro kind hkind hall
    obtain ⟨k, hk⟩ := exists_family_of_kind hkind
    exact (hresult f hf).mpr ⟨k, fun a ha => hk a (hall a ha)⟩

/-- Among 2⁵³ + 1, the float 2⁵³ and 2⁵³ the float equals both integers, and the least value is the
smaller one. -/
theorem callBuiltin_extremes_parted :
    2 ≤ [Value.int 9007199254740993, .float (floatOfInt 9007199254740992),
        .int 9007199254740992].length ∧
      IsExtreme .le [.int 9007199254740993, .float (floatOfInt 9007199254740992),
        .int 9007199254740992] (.int 9007199254740992) := by
  have hbits : nearestBits 9007199254740993 1 = nearestBits 9007199254740992 1 := by
    decide +kernel
  have hrank : rank (floatOfInt 9007199254740992) = rank (floatOfInt 9007199254740993) := by
    have heven := rank_floatOfInt_natCast 9007199254740992
    rw [← hbits, ← rank_floatOfInt_natCast] at heven
    exact heven
  have hnan : (Value.float (floatOfInt 9007199254740992)).isNaN = false := isNaN_floatOfInt _
  have hequal : (Value.float (floatOfInt 9007199254740992)).order (.int 9007199254740993) =
      some .eq := by
    rw [order_eq (b := .int 9007199254740993) hnan rfl rfl rfl]
    exact congrArg some (compare_eq_iff_eq.mpr hrank)
  refine ⟨by decide, (callBuiltin_extremes (by decide)).1 _ ?_⟩
  show extreme .min .lt _ _ = _
  rw [extreme, hequal]
  rfl

end Expr

end Fanout
