/-
  Fanout.Proofs.Template.Alone
  ────────────────────────────
  **A template that is one span, and a declaration of the same expression.**

  Both have the value of the expression, but not the same use for it.  A
  span shows the text of the value and stays as it is written where there is
  none; a declaration binds the value and ends the resolving where there is
  none.  A text is bound with double quotes, and what is shown for the
  name is searched for spans once more.

    • `splits_spanned` — a span that ends at its first closing mark is split
      as one span,
    • `resolveSpans_of_splits` — what a split text becomes,
    • `render_declared` — what the span shows is what the name shows, up to
      the quotes of a text and the spans in it.
-/
import Fanout.Derived
import Fanout.Proofs.Template.Span
import Fanout.Proofs.Template.Written
import Fanout.Proofs.Value
import Fanout.Template.Render

namespace Fanout.Template

open Fanout.Text Fanout.Expr

variable {b : Bindings} {cs e : List Char}

/-! ## §1. Texts without dollar signs. -/

/-- A text without dollar signs is shown as it is. -/
theorem fills_append_self {text cs out : List Char} (htext : '$' ∉ text) (h : Fills b cs out) :
    Fills b (text ++ cs) (text ++ out) := by
  induction text with
  | nil => exact h
  | cons c text ih =>
      obtain ⟨hc, htext⟩ := not_or.mp (List.mem_cons.not.mp htext)
      show Fills b (c :: (text ++ cs)) ([c] ++ (text ++ out))
      exact fills_of_begins (.plain (Ne.symm hc)) (fun _ => rfl) (ih htext)

/-- A text without dollar signs is filled with itself. -/
theorem fills_self (h : '$' ∉ cs) : Fills b cs cs := by
  have hfills := fills_append_self h (fills_nil (b := b))
  rw [List.append_nil] at hfills
  exact hfills

/-- Filling a template with what it becomes wherever it stands. -/
theorem substitute_of_fills {template out : String}
    (h : Fills b template.toList out.toList) (firstLine : Nat) :
    substitute template firstLine b = .ok out := by
  unfold substitute
  rw [h]
  exact congrArg Except.ok String.ofList_toList

theorem render_of_substitute {template filled : String} {firstLine : Nat}
    (h : substitute template firstLine b = .ok filled) :
    render template firstLine b = .ok (resolveSpans filled b) := by
  rw [render, h]
  rfl

/-! ## §2. Texts with one span or none. -/

/-- A text without an opening brace has no span. -/
theorem noSpan_of_not_mem (h : '\x7b' ∉ cs) : NoSpan cs := by
  rintro u v rfl -
  exact h (List.mem_append_right u (List.mem_append_left v List.mem_cons_self))

/-- **What a split text becomes.** -/
theorem resolveSpans_of_splits {text : String} {spans : List (List Char × List Char)}
    {last : List Char} (h : Splits text.toList spans last) (b : Bindings) :
    (resolveSpans text b).toList = joined (replacement b) last spans := by
  obtain ⟨spans', last', hsplits, hresolve⟩ := exists_splits text.toList
  obtain ⟨rfl, rfl⟩ := h.unique hsplits
  rw [resolveSpans, String.toList_ofList, hresolve]

/-- A text whose spans have no values stays as it is written. -/
theorem resolveSpans_of_failed {text : String} {spans : List (List Char × List Char)}
    {last : List Char} (h : Splits text.toList spans last)
    (hfailed : ∀ s ∈ spans, ∃ cause, evaluate (String.ofList s.2) b = .error cause) :
    resolveSpans text b = text := by
  apply String.toList_inj.mp
  rw [resolveSpans_of_splits h, joined_of_failed hfailed, h.joined_spanned]

/-- Without an opening brace nothing is resolved. -/
theorem resolveSpans_of_not_mem {text : String} (h : '\x7b' ∉ text.toList) (b : Bindings) :
    resolveSpans text b = text :=
  resolveSpans_of_failed (.last (noSpan_of_not_mem h)) fun _ hs => absurd hs List.not_mem_nil

/-- An expression that the first closing mark behind it ends. -/
def EndsFirst (e : List Char) : Prop := ∀ u v, e ++ closeMark = u ++ (closeMark ++ v) → v = []

/-- One that a cut at the mark gives is one. -/
theorem endsFirst_of_cutAt (h : cutAt closeMark (e ++ closeMark) = some (e, [])) : EndsFirst e := by
  intro u v hu
  have hfirst := cutAt_first closeMark_ne_nil h u v hu
  have hlength := congrArg List.length hu
  simp only [List.length_append] at hlength
  exact List.eq_nil_of_length_eq_zero (by omega)

/-- One without a closing brace is one. -/
theorem endsFirst_of_not_mem (h : '\x7d' ∉ e) : EndsFirst e := by
  intro u v hu
  -- A mark that leaves something behind it would begin inside the expression.
  rcases List.append_eq_append_iff.mp hu with ⟨w, -, hmark⟩ | ⟨w, rfl, hmark⟩
  · have hlength := congrArg List.length hmark
    simp only [List.length_append] at hlength
    exact List.eq_nil_of_length_eq_zero (by omega)
  · cases w with
    | nil => exact List.append_right_eq_self.mp hmark
    | cons c w =>
        obtain ⟨rfl, -⟩ := List.cons.inj hmark
        exact absurd (List.mem_append_right u List.mem_cons_self) h

/-- **A span whose expression ends at the first closing mark is split as one span.** -/
theorem splits_spanned (h : EndsFirst e) : Splits (spanned e) [([], e)] [] := by
  refine .span ⟨?_, fun _ _ _ _ => Nat.zero_le _, h⟩ (.last (noSpan_of_not_mem List.not_mem_nil))
  rw [spanned, List.nil_append, List.append_nil]

/-- A text that is one span. -/
def spanText (expression : String) : String := String.ofList (spanned expression.toList)

/-- It becomes what is put for the span. -/
theorem resolveSpans_spanText {expression : String} (h : EndsFirst expression.toList)
    (b : Bindings) :
    resolveSpans (spanText expression) b =
      match evaluate expression b with
      | .ok v => v.text
      | .error _ => spanText expression := by
  have hsplits : Splits (spanText expression).toList [([], expression.toList)] [] := by
    rw [spanText, String.toList_ofList]
    exact splits_spanned h
  apply String.toList_inj.mp
  rw [resolveSpans_of_splits hsplits, joined, joined, List.nil_append, List.append_nil, replacement,
    String.ofList_toList]
  cases evaluate expression b with
  | ok v => rfl
  | error cause => exact String.toList_ofList.symm

/-! ## §3. Spans and declarations. -/

/-- What a span shows that is the whole template. -/
theorem render_spanText {expression : String} (hdollar : '$' ∉ expression.toList)
    (hends : EndsFirst expression.toList) (firstLine : Nat) (b : Bindings) :
    render (spanText expression) firstLine b =
      .ok (match evaluate expression b with
        | .ok v => v.text
        | .error _ => spanText expression) := by
  have hplain : '$' ∉ (spanText expression).toList := by
    rw [spanText, String.toList_ofList]
    simp [spanned, openMark, closeMark, hdollar]
  rw [render_of_substitute (substitute_of_fills (fills_self hplain) firstLine),
    resolveSpans_spanText hends]

/-- What a single declaration leaves. -/
theorem resolveDerived_single (b : Bindings) (d : Derived) :
    resolveDerived b [d] =
      match evaluate d.expression b with
      | .ok v => (b.bind d.name (bound v), none)
      | .error cause => (b, some ⟨d.name, d.line, cause⟩) := rfl

/-- No value but a text gets double quotes. -/
theorem bound_of_not_str {v : Value} (h : ∀ s, v ≠ .str s) : bound v = v := by
  unfold bound
  split
  · exact absurd rfl (h _)
  · rfl

/-- **A span and a declaration of the same expression agree.**  Where the declaration has a value,
the span shows its text.  The name shows that text too, unless the value is a text: that gets double
quotes, and is shown like any template with the spans in it resolved, so that it stays as it is
when none of them has a value.  Where the declaration has no value, the span stays as it is
written. -/
theorem render_declared {x expression : String} (hname : isName x.toList = true)
    (hdollar : '$' ∉ expression.toList) (hends : EndsFirst expression.toList) (b : Bindings)
    (line firstLine : Nat) :
    (∀ after, resolveDerived b [⟨x, expression, line⟩] = (after, none) →
      ∃ w v, render (spanText expression) firstLine b = .ok w ∧ after.get? x = some v
        ∧ ((∀ s, v ≠ .str s) → render ("$" ++ x) firstLine after = .ok w)
        ∧ ((∃ s, v = .str s) → v = .str (quoted w)
            ∧ substitute ("$" ++ x) firstLine after = .ok (quoted w)
            ∧ render ("$" ++ x) firstLine after = .ok (resolveSpans (quoted w) after)
            ∧ ∀ spans last, Splits (quoted w).toList spans last →
                (∀ s ∈ spans, ∃ cause, evaluate (String.ofList s.2) after = .error cause) →
                render ("$" ++ x) firstLine after = .ok (quoted w)))
    ∧ ∀ after failure, resolveDerived b [⟨x, expression, line⟩] = (after, some failure) →
        render (spanText expression) firstLine b = .ok (spanText expression) := by
  have hspan := render_spanText hdollar hends firstLine b
  have hsingle := resolveDerived_single b ⟨x, expression, line⟩
  dsimp only at hsingle
  cases hvalue : evaluate expression b with
  | error cause =>
      rw [hvalue] at hspan hsingle
      refine ⟨fun after h => ?_, fun _ _ _ => hspan⟩
      rw [hsingle] at h
      cases h
  | ok v =>
      rw [hvalue] at hspan hsingle
      refine ⟨fun after h => ?_, fun after failure h => ?_⟩
      · obtain ⟨rfl, -⟩ := Prod.mk.inj (hsingle.symm.trans h)
        have hget : (b.bind x (bound v)).get? x = some (bound v) := by
          rw [Bindings.get?_bind, if_pos rfl]
        have hfilled := substitute_reference hname firstLine hget
        have hshown := render_of_substitute hfilled
        by_cases htext : ∃ s, v = .str s
        · obtain ⟨s, rfl⟩ := htext
          refine ⟨s, .str (quoted s), hspan, hget, fun hother => absurd rfl (hother _),
            fun _ => ⟨rfl, hfilled, hshown, fun spans last hsplits hfailed => ?_⟩⟩
          rw [hshown]
          exact congrArg Except.ok (resolveSpans_of_failed hsplits hfailed)
        · have hother : ∀ s, v ≠ .str s := fun s hs => htext ⟨s, hs⟩
          rw [bound_of_not_str hother] at hget hshown ⊢
          refine ⟨v.text, v, hspan, hget, fun _ => ?_, fun h => absurd h htext⟩
          -- No value but a text is shown with a brace.
          rw [hshown, resolveSpans_of_not_mem (braceless_text hother).noOpening]
      · rw [hsingle] at h
        cases h

/-- A text made of two, and a quotient that does not exist. -/
theorem render_declared_twice :
    render (spanText "'a' + 'b'") 1 .empty = .ok "ab"
      ∧ (resolveDerived .empty [⟨"x", "'a' + 'b'", 1⟩]).1.get? "x" = some (.str "\"ab\"")
      ∧ render "$x" 1 ⟨[("x", .str "\"ab\"")]⟩ = .ok "\"ab\""
      ∧ render (spanText "1 // 0") 1 .empty = .ok "\x7b-\x7b1 // 0\x7d-\x7d" := by
  have hends : EndsFirst "'a' + 'b'".toList := endsFirst_of_not_mem (by decide)
  have hends' : EndsFirst "1 // 0".toList := endsFirst_of_not_mem (by decide)
  have hjoined : resolveDerived .empty [⟨"x", "'a' + 'b'", 1⟩] =
      (⟨[("x", .str "\"ab\"")]⟩, none) := by decide +kernel
  have hfailed : (resolveDerived .empty [⟨"x", "1 // 0", 1⟩]).2.isSome = true := by decide +kernel
  have hname : isName "x".toList = true := by decide
  obtain ⟨w, v, hw, hv, -, htext⟩ :=
    (render_declared hname (by decide) hends .empty 1 1).1 _ hjoined
  have hab : render (spanText "'a' + 'b'") 1 .empty = .ok "ab" := by decide +kernel
  obtain rfl : w = "ab" := Except.ok.inj (hw.symm.trans hab)
  obtain rfl : v = .str "\"ab\"" := Option.some.inj (hv.symm.trans rfl)
  obtain ⟨-, -, hshown, -⟩ := htext ⟨_, rfl⟩
  refine ⟨hw, by rw [hjoined]; exact hv, hshown.trans (by decide +kernel), ?_⟩
  obtain ⟨failure, hfailure⟩ := Option.isSome_iff_exists.mp hfailed
  exact (render_declared hname (by decide) hends' .empty 1 1).2 _ failure
    (Prod.ext rfl hfailure)

/-- An expression of a text that has a span. -/
def spanMaker : String := "'\x7b-\x7b1\x7d-' + '\x7d'"

/-- The span of the text is resolved where a name shows it, and not where a span shows it. -/
theorem not_render_declared_spanMaker :
    isName "x".toList = true ∧ Bindings.empty.get? "x" = none
      ∧ '$' ∉ spanMaker.toList ∧ EndsFirst spanMaker.toList
      ∧ resolveDerived .empty [⟨"x", spanMaker, 1⟩] =
          (⟨[("x", .str "\"\x7b-\x7b1\x7d-\x7d\"")]⟩, none)
      ∧ render (spanText spanMaker) 1 .empty = .ok "\x7b-\x7b1\x7d-\x7d"
      ∧ render "$x" 1 ⟨[("x", .str "\"\x7b-\x7b1\x7d-\x7d\"")]⟩ = .ok "\"1\""
      ∧ render "$x" 1 ⟨[("x", .str "\"\x7b-\x7b1\x7d-\x7d\"")]⟩ ≠
          .ok (quoted "\x7b-\x7b1\x7d-\x7d") := by
  have hshown : render "$x" 1 ⟨[("x", .str "\"\x7b-\x7b1\x7d-\x7d\"")]⟩ = .ok "\"1\"" := by
    decide +kernel
  refine ⟨by decide, rfl, by decide, endsFirst_of_cutAt (by decide), by decide +kernel,
    by decide +kernel, hshown, ?_⟩
  rw [hshown]
  decide +kernel

end Fanout.Template
