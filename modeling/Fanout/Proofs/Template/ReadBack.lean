/-
  Fanout.Proofs.Template.ReadBack
  ───────────────────────────────
  **A name in a span, with a dollar sign and without.**

  Behind a dollar sign the text of the value is put into the span and read
  as an expression; without one the expression is the name and has the
  value.  For integers, truth values and the value for nothing both show the
  same, except for the smallest integer: its digits are read before its
  sign, and they are out of range.

    • `render_placed_iff` — when a value comes back from its own text.
-/
import Fanout.Proofs.Expr.Numeral
import Fanout.Proofs.Template.Alone

namespace Fanout.Template

open Fanout.Text Fanout.Expr

variable {b : Bindings} {name : String}

/-- A name has neither dollar signs nor closing braces. -/
theorem not_mem_of_isName (h : isName name.toList = true) :
    '$' ∉ name.toList ∧ '\x7d' ∉ name.toList := by
  have hchars := isNameChar_of_mem h
  exact ⟨fun hc => absurd (hchars _ hc) (by decide), fun hc => absurd (hchars _ hc) (by decide)⟩

/-- **The text of the value stands in the span in place of the name.** -/
theorem substitute_spanText (h : isName name.toList = true) {v : Value}
    (hv : b.get? name = some v) (firstLine : Nat) :
    substitute (spanText ("$" ++ name)) firstLine b = .ok (spanText v.text) := by
  refine substitute_of_fills ?_ firstLine
  have hchars : (spanText ("$" ++ name)).toList =
      openMark ++ '$' :: (name.toList ++ closeMark) := by
    rw [spanText, String.toList_ofList, String.toList_append]
    rfl
  have hfilled : (spanText v.text).toList = openMark ++ (v.text.toList ++ closeMark) := by
    rw [spanText, String.toList_ofList]
    rfl
  rw [hchars, hfilled]
  -- the mark behind the name ends it
  have hclose : Fills b closeMark closeMark := fills_self (by decide)
  have hnamed := fills_named h hv (endsName_brace ['-', '\x7d']) hclose
  exact fills_append_self (by decide) hnamed

/-- A value without parts is no text. -/
theorem ne_str_of_isAtomic {v : Value} (h : IsAtomic v) (s : String) : v ≠ .str s := by
  rintro rfl
  rcases h with h | h | h <;> cases h

/-- **What a span shows for a name, with a dollar sign and without.**  Filling puts the text of the
value into the span.  It comes back as the value, and is shown again, exactly if the value is
not the smallest integer; the span of that one stays, with the digits in place of the name.  The name
without a dollar sign always shows the text, unless it is a word with a fixed meaning. -/
theorem render_placed_iff (hname : isName name.toList = true) {v : Value} (hv : IsAtomic v)
    (hget : b.get? name = some v) (firstLine : Nat) :
    substitute (spanText ("$" ++ name)) firstLine b = .ok (spanText v.text)
      ∧ (evaluate v.text b = .ok v ↔ v ≠ .int Int64.minValue)
      ∧ (render (spanText ("$" ++ name)) firstLine b = .ok v.text ↔ v ≠ .int Int64.minValue)
      ∧ (v = .int Int64.minValue →
          render (spanText ("$" ++ name)) firstLine b = .ok (spanText v.text))
      ∧ (keywords.lookup name = none → render (spanText name) firstLine b = .ok v.text) := by
  obtain ⟨hdollar, hbrace⟩ := not_mem_of_isName hname
  have hfilled := substitute_spanText hname hget firstLine
  have hends : EndsFirst v.text.toList :=
    endsFirst_of_not_mem (braceless_text (ne_str_of_isAtomic hv)).noClosing
  have hplaced : render (spanText ("$" ++ name)) firstLine b = _ := render_of_substitute hfilled
  rw [resolveSpans_spanText hends] at hplaced
  have hfree : keywords.lookup name = none → render (spanText name) firstLine b = .ok v.text := by
    intro hword
    rw [render_spanText hdollar (endsFirst_of_not_mem hbrace), evaluate_name ⟨hname, hword⟩ hget]
  have hvalue := evaluate_text hv b
  by_cases hmin : v = .int Int64.minValue
  · rw [if_pos hmin] at hvalue
    rw [hvalue] at hplaced
    dsimp only at hplaced
    refine ⟨hfilled, ?_, ?_, fun _ => hplaced, hfree⟩
    · rw [hvalue]
      exact iff_of_false (fun h => by cases h) (not_not.mpr hmin)
    · -- the marks are still there
      rw [hplaced]
      refine iff_of_false (fun h => ?_) (not_not.mpr hmin)
      rw [hmin] at h
      exact absurd (Except.ok.inj h) (by decide)
  · rw [if_neg hmin] at hvalue
    rw [hvalue] at hplaced
    exact ⟨hfilled, iff_of_true hvalue hmin, iff_of_true hplaced hmin, fun h => absurd h hmin,
      hfree⟩

/-- The smallest integer does not come back. -/
theorem render_placed_minValue :
    render "\x7b-\x7b$n\x7d-\x7d \x7b-\x7bn\x7d-\x7d" 1 ⟨[("n", .int Int64.minValue)]⟩ =
        .ok "\x7b-\x7b-9223372036854775808\x7d-\x7d -9223372036854775808"
      ∧ render (spanText "$n") 1 ⟨[("n", .int Int64.minValue)]⟩ =
        .ok "\x7b-\x7b-9223372036854775808\x7d-\x7d"
      ∧ render (spanText "n") 1 ⟨[("n", .int Int64.minValue)]⟩ = .ok "-9223372036854775808" := by
  have hname : isName "n".toList = true := by decide
  have hatomic : IsAtomic (.int Int64.minValue) := .inr (.inr rfl)
  obtain ⟨-, -, -, hstays, hfree⟩ :=
    render_placed_iff (b := ⟨[("n", .int Int64.minValue)]⟩) hname hatomic rfl 1
  have htext : (Value.int Int64.minValue).text = "-9223372036854775808" := by decide
  rw [htext] at hstays hfree
  exact ⟨by decide +kernel, hstays rfl, hfree rfl⟩

end Fanout.Template
