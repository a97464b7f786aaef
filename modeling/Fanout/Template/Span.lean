/-
  Fanout.Template.Span
  ────────────────────
  **Expressions embedded in a text.**

  A span is an expression between an opening and a closing mark.  The first
  opening mark begins it and the next closing mark ends it; what lies
  between spans, and what a span becomes, is not searched again.  A span
  whose expression has no value stays as it is written.
-/
import Fanout.Expr.Meaning

namespace Fanout.Template

open Fanout.Expr

/-! ## §1. Cutting. -/

/-- The mark that begins a span. -/
def openMark : List Char := ['\x7b', '-', '\x7b']

/-- The mark that ends a span. -/
def closeMark : List Char := ['\x7d', '-', '\x7d']

/-- The text before the first occurrence of a mark, and the text behind it. -/
def cutAt (mark : List Char) : List Char → Option (List Char × List Char)
  | [] => if mark = [] then some ([], []) else none
  | c :: cs =>
    if mark.isPrefixOf (c :: cs) then some ([], (c :: cs).drop mark.length)
    else (cutAt mark cs).map fun (before, behind) => (c :: before, behind)

/-- A text is what comes before the mark, the mark and what comes behind it. -/
theorem eq_of_cutAt (mark : List Char) :
    ∀ {cs before behind : List Char},
      cutAt mark cs = some (before, behind) → cs = before ++ (mark ++ behind)
  | [], before, behind, h => by
      by_cases hm : mark = []
      · simp [cutAt, hm] at h
        simp [h.1, h.2, hm]
      · simp [cutAt, hm] at h
  | c :: cs, before, behind, h => by
      by_cases hp : mark.isPrefixOf (c :: cs) = true
      · simp only [cutAt, hp, if_true, Option.some.injEq, Prod.mk.injEq] at h
        obtain ⟨rfl, rfl⟩ := h
        obtain ⟨t, ht⟩ := List.isPrefixOf_iff_prefix.mp hp
        rw [← ht]
        simp
      · simp only [cutAt, hp, if_false, Bool.false_eq_true, Option.map_eq_some_iff] at h
        obtain ⟨⟨b, a⟩, hc, he⟩ := h
        simp only [Prod.mk.injEq] at he
        obtain ⟨rfl, rfl⟩ := he
        rw [eq_of_cutAt mark hc]
        simp

/-- A part of a text. -/
inductive Segment where
  /-- A text outside of spans. -/
  | outside (text : List Char)
  /-- The expression of a span. -/
  | span (expression : List Char)
  deriving DecidableEq

/-- A part as it is written. -/
def Segment.source : Segment → List Char
  | .outside text => text
  | .span e => openMark ++ (e ++ closeMark)

/-- The first span of a text: what comes before it, its expression, what comes behind. -/
def firstSpan? (cs : List Char) : Option (List Char × List Char × List Char) :=
  match cutAt openMark cs with
  | none => none
  | some (before, opened) =>
    match cutAt closeMark opened with
    | none => none
    | some (expression, behind) => some (before, expression, behind)

/-- A text is what comes before its first span, the span and what comes behind it. -/
theorem eq_of_firstSpan? {cs before expression behind : List Char}
    (h : firstSpan? cs = some (before, expression, behind)) :
    cs = before ++ ((Segment.span expression).source ++ behind) := by
  unfold firstSpan? at h
  split at h
  · cases h
  · rename_i b opened ho
    split at h
    · cases h
    · rename_i e a hc
      simp only [Option.some.injEq, Prod.mk.injEq] at h
      obtain ⟨rfl, rfl, rfl⟩ := h
      rw [eq_of_cutAt _ ho, eq_of_cutAt _ hc]
      simp [Segment.source]

/-- The parts of a text. -/
def segments (cs : List Char) : List Segment :=
  match _h : firstSpan? cs with
  | none => [.outside cs]
  | some (before, expression, behind) =>
    .outside before :: .span expression :: segments behind
termination_by cs.length
decreasing_by
  rw [eq_of_firstSpan? _h]
  simp [Segment.source, openMark]
  omega

/-- Cutting loses nothing. -/
theorem source_segments (cs : List Char) : (segments cs).flatMap Segment.source = cs := by
  fun_induction segments cs with
  | case1 cs h => simp [Segment.source]
  | case2 cs before expression behind h ih =>
      rw [List.flatMap_cons, List.flatMap_cons, ih, eq_of_firstSpan? h]
      simp [Segment.source]

/-! ## §2. Resolving. -/

/-- What a part becomes. -/
def Segment.resolve (b : Bindings) : Segment → List Char
  | .outside text => text
  | .span e =>
    match evaluate (String.ofList e) b with
    | .ok v => v.text.toList
    | .error _ => (Segment.span e).source

/-- The expression of a span that stays as it is written, and why. -/
def Segment.failure? (b : Bindings) : Segment → Option (String × EvalError)
  | .outside _ => none
  | .span e =>
    match evaluate (String.ofList e) b with
    | .ok _ => none
    | .error cause => some (String.ofList e, cause)

/-- A text with its spans resolved. -/
def resolveSpans (text : String) (b : Bindings) : String :=
  String.ofList ((segments text.toList).flatMap (Segment.resolve b))

/-- The spans of a text that stay as they are written, in order. -/
def spanFailures (text : String) (b : Bindings) : List (String × EvalError) :=
  (segments text.toList).filterMap (Segment.failure? b)

end Fanout.Template
