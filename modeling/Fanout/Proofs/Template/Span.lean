/-
  Fanout.Proofs.Template.Span
  ───────────────────────────
  **Spans from left to right, the shortest first.**

  `Splits` says how a text is cut into spans and what lies around them,
  without reference to the cutting: every span begins at the first opening
  mark that has a closing mark behind it and ends at the first of these.

    • `cutAt_first`, `not_infix_of_cutAt` — a mark is found where it occurs
      first,
    • `exists_splits`, `Splits.unique` — every text is split in one way,
    • `resolveSpans_spec` — the expressions of the spans are replaced, and
      nothing else.
-/
import Fanout.Template.Span

namespace Fanout.Template

open Fanout.Expr

/-! ## §1. Splitting. -/

/-- A span of a text with nothing before it that could be a span: what comes before it, its
expression, what comes behind. -/
structure IsFirstSpan (cs before expression behind : List Char) : Prop where
  /-- The text is cut before and behind the span. -/
  split : cs = before ++ (openMark ++ (expression ++ (closeMark ++ behind)))
  /-- No opening mark that has a closing mark behind it comes before the one of the span. -/
  leftmost : ∀ u v, cs = u ++ (openMark ++ v) → closeMark <:+: v → before.length ≤ u.length
  /-- The first closing mark behind it ends the span. -/
  shortest : ∀ u v, expression ++ closeMark = u ++ (closeMark ++ v) → v = []

/-- No opening mark has a closing mark behind it. -/
def NoSpan (cs : List Char) : Prop := ∀ u v, cs = u ++ (openMark ++ v) → ¬ closeMark <:+: v

/-- How a text is split: what comes before each span together with its expression, and what
comes behind all of them. -/
inductive Splits : List Char → List (List Char × List Char) → List Char → Prop where
  /-- There is no span. -/
  | last {cs : List Char} (noSpan : NoSpan cs) : Splits cs [] cs
  /-- The first span, and those behind it. -/
  | span {cs before expression behind last : List Char} {spans : List (List Char × List Char)}
      (first : IsFirstSpan cs before expression behind) (others : Splits behind spans last) :
      Splits cs ((before, expression) :: spans) last

/-- A split text put together, each expression with what stands for it. -/
def joined (f : List Char → List Char) (last : List Char) : List (List Char × List Char) → List Char
  | [] => last
  | (before, expression) :: spans => before ++ (f expression ++ joined f last spans)

/-- A span as it is written. -/
def spanned (expression : List Char) : List Char := openMark ++ (expression ++ closeMark)

/-- What is put for a span: the text of its value, or else the span itself. -/
def replacement (b : Bindings) (expression : List Char) : List Char :=
  match evaluate (String.ofList expression) b with
  | .ok v => v.text.toList
  | .error _ => spanned expression

/-! ## §2. The first occurrence of a mark. -/

/-- A mark occurs nowhere before the place where the text is cut. -/
theorem cutAt_first {mark : List Char} (hm : mark ≠ []) :
    ∀ {cs before behind : List Char}, cutAt mark cs = some (before, behind) →
      ∀ u v, cs = u ++ (mark ++ v) → before.length ≤ u.length
  | [], before, behind, h, u, v, _ => by
      rw [cutAt, if_neg hm] at h
      cases h
  | c :: cs, before, behind, h, u, v, hu => by
      rw [cutAt] at h
      by_cases hp : mark.isPrefixOf (c :: cs) = true
      · rw [if_pos hp] at h
        obtain ⟨rfl, -⟩ := Prod.mk.inj (Option.some.inj h)
        exact Nat.zero_le _
      · rw [if_neg hp] at h
        obtain ⟨⟨before', behind'⟩, hcut, he⟩ := Option.map_eq_some_iff.mp h
        obtain ⟨rfl, rfl⟩ := Prod.mk.inj he
        cases u with
        | nil =>
            -- the text would begin with the mark
            exact absurd (List.isPrefixOf_iff_prefix.mpr ⟨v, hu.symm⟩) hp
        | cons d u =>
            obtain ⟨-, hu⟩ := List.cons.inj hu
            exact Nat.succ_le_succ (cutAt_first hm hcut u v hu)

/-- A text that is not cut at a mark does not have it. -/
theorem not_infix_of_cutAt {mark : List Char} (hm : mark ≠ []) :
    ∀ {cs : List Char}, cutAt mark cs = none → ¬ mark <:+: cs
  | [], _ => by
      intro h
      exact hm (List.infix_nil.mp h)
  | c :: cs, h => by
      rw [cutAt] at h
      by_cases hp : mark.isPrefixOf (c :: cs) = true
      · rw [if_pos hp] at h
        cases h
      · rw [if_neg hp, Option.map_eq_none_iff] at h
        intro hinfix
        rcases List.infix_cons_iff.mp hinfix with hprefix | hinfix
        · exact hp (List.isPrefixOf_iff_prefix.mpr hprefix)
        · exact not_infix_of_cutAt hm h hinfix

theorem openMark_ne_nil : openMark ≠ [] := by decide

theorem closeMark_ne_nil : closeMark ≠ [] := by decide

/-! ## §3. The first span. -/

variable {cs before expression behind : List Char}

theorem isFirstSpan_of_firstSpan? (h : firstSpan? cs = some (before, expression, behind)) :
    IsFirstSpan cs before expression behind := by
  unfold firstSpan? at h
  split at h
  · cases h
  · rename_i b opened hopen
    split at h
    · cases h
    · rename_i e a hclose
      simp only [Option.some.injEq, Prod.mk.injEq] at h
      obtain ⟨rfl, rfl, rfl⟩ := h
      refine ⟨?_, fun u v hu _ => cutAt_first openMark_ne_nil hopen u v hu, ?_⟩
      · rw [eq_of_cutAt _ hopen, eq_of_cutAt _ hclose]
      · intro u v hu
        -- a mark that ends earlier would be one that the text is cut at
        have hopened : opened = u ++ (closeMark ++ (v ++ a)) := by
          rw [eq_of_cutAt _ hclose, ← List.append_assoc, hu]
          simp
        have hfirst := cutAt_first closeMark_ne_nil hclose u _ hopened
        have hlength := congrArg List.length hu
        simp only [List.length_append] at hlength
        exact List.eq_nil_of_length_eq_zero (by omega)

theorem noSpan_of_firstSpan? (h : firstSpan? cs = none) : NoSpan cs := by
  intro u v hu hclose
  unfold firstSpan? at h
  split at h
  · rename_i hopen
    exact not_infix_of_cutAt openMark_ne_nil hopen ⟨u, v, by rw [hu]; simp⟩
  · rename_i b opened hopen
    split at h
    · rename_i hnone
      -- what is behind any opening mark is behind the first one
      have hfirst := cutAt_first openMark_ne_nil hopen u v hu
      have hcs := eq_of_cutAt _ hopen
      have hv : v <:+ cs := ⟨u ++ openMark, by rw [hu, List.append_assoc]⟩
      have hopened : opened <:+ cs := ⟨b ++ openMark, by rw [hcs, List.append_assoc]⟩
      have hlength : v.length ≤ opened.length := by
        have hboth := congrArg List.length (hu.symm.trans hcs)
        simp only [List.length_append] at hboth
        omega
      have hsuffix : v <:+ opened := List.suffix_of_suffix_length_le hv hopened hlength
      exact not_infix_of_cutAt closeMark_ne_nil hnone (hclose.trans hsuffix.isInfix)
    · cases h

/-- An expression before the first closing mark is no longer than one before any. -/
theorem length_le_of_shortest {e e' behind behind' : List Char}
    (shortest : ∀ u v, e' ++ closeMark = u ++ (closeMark ++ v) → v = [])
    (h : e ++ (closeMark ++ behind) = e' ++ (closeMark ++ behind')) : e'.length ≤ e.length := by
  apply Nat.le_of_not_lt
  intro hlt
  -- otherwise the shorter one and its mark would come at the start of the longer one
  have hleft : e ++ closeMark <+: e ++ (closeMark ++ behind) := ⟨behind, by rw [List.append_assoc]⟩
  have hright : e' ++ closeMark <+: e ++ (closeMark ++ behind) :=
    ⟨behind', by rw [List.append_assoc, h]⟩
  have hlength : (e ++ closeMark).length ≤ (e' ++ closeMark).length := by
    simp only [List.length_append]
    omega
  obtain ⟨v, hv⟩ := List.prefix_of_prefix_length_le hleft hright hlength
  rw [List.append_assoc] at hv
  have hempty := shortest e v hv.symm
  have hsame := congrArg List.length hv
  rw [hempty] at hsame
  simp only [List.length_append, List.length_nil] at hsame
  omega

/-- The mark that ends a span is behind the one that begins it. -/
theorem contains_closeMark (expression behind : List Char) :
    closeMark <:+: expression ++ (closeMark ++ behind) :=
  ⟨expression, behind, by rw [List.append_assoc]⟩

/-- **The first span is the only one.** -/
theorem IsFirstSpan.unique {before' expression' behind' : List Char}
    (h : IsFirstSpan cs before expression behind)
    (h' : IsFirstSpan cs before' expression' behind') :
    before = before' ∧ expression = expression' ∧ behind = behind' := by
  -- Each begins no later than the other, and each ends no later than the other.
  have hbefore : before.length = before'.length :=
    Nat.le_antisymm (h.leftmost before' _ h'.split (contains_closeMark _ _))
      (h'.leftmost before _ h.split (contains_closeMark _ _))
  obtain ⟨rfl, hopened⟩ := List.append_inj (h.split.symm.trans h'.split) hbefore
  have hinside := List.append_cancel_left hopened
  have hexpression : expression.length = expression'.length :=
    Nat.le_antisymm (length_le_of_shortest h.shortest hinside.symm)
      (length_le_of_shortest h'.shortest hinside)
  obtain ⟨rfl, hclosed⟩ := List.append_inj hinside hexpression
  exact ⟨rfl, rfl, List.append_cancel_left hclosed⟩

/-! ## §4. All spans. -/

variable {last : List Char} {spans : List (List Char × List Char)}

/-- A text that begins with a span has one. -/
theorem IsFirstSpan.not_noSpan (h : IsFirstSpan cs before expression behind) : ¬ NoSpan cs :=
  fun hnone => hnone before _ h.split (contains_closeMark _ _)

/-- **A text is split in one way only.** -/
theorem Splits.unique {last' : List Char} {spans' : List (List Char × List Char)}
    (h : Splits cs spans last) (h' : Splits cs spans' last') : spans = spans' ∧ last = last' := by
  induction h generalizing spans' last' with
  | last noSpan =>
      cases h' with
      | last _ => exact ⟨rfl, rfl⟩
      | span first _ => exact absurd noSpan first.not_noSpan
  | span first _ ih =>
      cases h' with
      | last noSpan => exact absurd noSpan first.not_noSpan
      | span first' others' =>
          obtain ⟨rfl, rfl, rfl⟩ := first.unique first'
          obtain ⟨rfl, rfl⟩ := ih others'
          exact ⟨rfl, rfl⟩

/-- Putting the spans back as they are written gives the text. -/
theorem Splits.joined_spanned (h : Splits cs spans last) : joined spanned last spans = cs := by
  induction h with
  | last _ => rfl
  | span first _ ih =>
      rw [joined, ih, first.split, spanned]
      simp

/-- **Every text is split**, and its parts are what comes before the spans, the spans, and what
comes behind. -/
theorem exists_splits (cs : List Char) :
    ∃ spans last, Splits cs spans last ∧
      ∀ b, (segments cs).flatMap (Segment.resolve b) = joined (replacement b) last spans := by
  -- Span by span, as the text is cut.
  fun_induction segments cs with
  | case1 cs h =>
      refine ⟨[], cs, .last (noSpan_of_firstSpan? h), fun b => ?_⟩
      simp [Segment.resolve, joined]
  | case2 cs before expression behind h ih =>
      obtain ⟨spans, last, hsplits, hresolve⟩ := ih
      refine ⟨(before, expression) :: spans, last, .span (isFirstSpan_of_firstSpan? h) hsplits,
        fun b => ?_⟩
      have hspan : (Segment.span expression).resolve b = replacement b expression := rfl
      rw [List.flatMap_cons, List.flatMap_cons, hresolve, hspan]
      rfl

/-- Where no expression has a value, everything stays as it is written. -/
theorem joined_of_failed {b : Bindings} {last : List Char} :
    ∀ {spans : List (List Char × List Char)},
      (∀ s ∈ spans, ∃ e, evaluate (String.ofList s.2) b = .error e) →
      joined (replacement b) last spans = joined spanned last spans
  | [], _ => rfl
  | (before, expression) :: spans, h => by
      obtain ⟨e, he⟩ := h _ List.mem_cons_self
      have hstays : replacement b expression = spanned expression := by
        unfold replacement
        rw [he]
      rw [joined, joined, hstays,
        joined_of_failed fun s hs => h s (List.mem_cons_of_mem _ hs)]

/-- **Spans are resolved from left to right, the shortest first, once.**  A text is split in
exactly one way; put together with the text of its value for every expression that has one, and
all other spans as they are written, it is what resolving the spans gives.  A text without
spans, or none of whose expressions has a value, stays as it is. -/
theorem resolveSpans_spec (text : String) :
    ∃ spans last, Splits text.toList spans last
      ∧ (∀ spans' last', Splits text.toList spans' last' → spans' = spans ∧ last' = last)
      ∧ text.toList = joined spanned last spans
      ∧ ∀ b, (resolveSpans text b).toList = joined (replacement b) last spans
        ∧ ((∀ s ∈ spans, ∃ e, evaluate (String.ofList s.2) b = .error e) →
            resolveSpans text b = text) := by
  obtain ⟨spans, last, hsplits, hresolve⟩ := exists_splits text.toList
  have hback := hsplits.joined_spanned
  refine ⟨spans, last, hsplits, fun _ _ h' => h'.unique hsplits, hback.symm, fun b => ?_⟩
  have hchars : (resolveSpans text b).toList = joined (replacement b) last spans := by
    rw [resolveSpans, String.toList_ofList, hresolve]
  refine ⟨hchars, fun hfailed => ?_⟩
  apply String.toList_inj.mp
  rw [hchars, joined_of_failed hfailed, hback]

/-- The first opening mark begins the span, although the one inside would give an expression
that has a value. -/
example :
    resolveSpans "\x7b-\x7b \x7b-\x7b1\x7d-\x7d" .empty = "\x7b-\x7b \x7b-\x7b1\x7d-\x7d" := by
  decide +kernel

end Fanout.Template
