/-
  Fanout.Proofs.Source.Reference
  ──────────────────────────────
  **What a declared name means in templates and in expressions.**

  A source, a template and an expression each say for themselves what a
  name is.  The three agree: what a source accepts as a name is a
  placeholder behind a dollar sign, with or without braces, and a token of
  its own in an expression.  Only the words with a fixed meaning are kept
  from being names there.

    • `reference_declared` — what every declared name stands for.
-/
import Fanout.Proofs.Expr.Word
import Fanout.Proofs.Source.Header
import Fanout.Proofs.Template.Written

namespace Fanout.Source

open Fanout.Expr Fanout.Template

variable {b : Bindings}

/-- **A declared name means the same everywhere, unless it is a word with a fixed meaning.**
Whatever is bound to a name that an accepted source declares is what a placeholder shows, with
or without braces, and what the name alone is as an expression.  Only the words for values and
operators are not looked up there: they are what they always are. -/
theorem reference_declared {path : Path} {text : String} {s : Source}
    (hs : ofText path text = .ok s) {d : Declaration} (hd : d ∈ s.declarations) {v : Value}
    (hv : b.get? d.name = some v) :
    (∀ firstLine, substitute ("$" ++ d.name) firstLine b = .ok v.text
      ∧ substitute ("$\x7b" ++ d.name ++ "\x7d") firstLine b = .ok v.text)
    ∧ (keywords.lookup d.name = none → evaluate d.name b = .ok v)
    ∧ ∀ k, keywords.lookup d.name = some k →
        (∀ w, wordValue? k = some w → evaluate d.name b = .ok w)
        ∧ (wordValue? k = none →
            ∃ fault position, evaluate d.name b = .error (.malformed fault position)) := by
  obtain ⟨-, hwell⟩ := of_ofText hs
  have hname := hwell.isName d hd
  refine ⟨fun firstLine => ⟨?_, ?_⟩, fun hfree => ?_, fun k hk => evaluate_word hk⟩
  · exact substitute_reference hname firstLine hv
  · exact substitute_braced hname firstLine hv
  · exact evaluate_name ⟨hname, hfree⟩ hv

/-- A source with a variable that has the name of a function. -/
def countedLength : Source :=
  ⟨⟨"demo.crankgen"⟩, [.domain ⟨"len", .typed, [.int 5], 1⟩], "$len\n", 3⟩

/-- The name means the variable. -/
theorem reference_countedLength :
    ofText ⟨"demo.crankgen"⟩ "VAR len = 5\nBEGIN_TEMPLATE\n$len\n" = .ok countedLength
      ∧ (⟨[("len", .int 5)]⟩ : Bindings).get? "len" = some (.int 5)
      ∧ substitute "$len" 1 ⟨[("len", .int 5)]⟩ = .ok "5"
      ∧ substitute "$\x7blen\x7d" 1 ⟨[("len", .int 5)]⟩ = .ok "5"
      ∧ evaluate "len" ⟨[("len", .int 5)]⟩ = .ok (.int 5) := by
  have htext :
      ofText ⟨"demo.crankgen"⟩ "VAR len = 5\nBEGIN_TEMPLATE\n$len\n" = .ok countedLength := rfl
  have hd : Declaration.domain ⟨"len", .typed, [.int 5], 1⟩ ∈ countedLength.declarations :=
    List.mem_cons_self
  have hv : (⟨[("len", .int 5)]⟩ : Bindings).get? "len" = some (.int 5) := rfl
  have hreference := reference_declared htext hd hv
  exact ⟨htext, hv, (hreference.1 1).1, (hreference.1 1).2, hreference.2.1 (by decide)⟩

/-- A source with a variable that has the name of a value. -/
def namedTrue : Source :=
  ⟨⟨"demo.crankgen"⟩, [.domain ⟨"True", .typed, [.int 5], 1⟩], "$True\n", 3⟩

/-- A placeholder shows what is bound to the name, but an expression does not look it up. -/
theorem not_reference_namedTrue :
    ofText ⟨"demo.crankgen"⟩ "VAR True = 5\nBEGIN_TEMPLATE\n$True\n" = .ok namedTrue
      ∧ .domain ⟨"True", .typed, [.int 5], 1⟩ ∈ namedTrue.declarations
      ∧ (⟨[("True", .int 5)]⟩ : Bindings).get? "True" = some (.int 5)
      ∧ substitute "$True" 1 ⟨[("True", .int 5)]⟩ = .ok "5"
      ∧ evaluate "True" ⟨[("True", .int 5)]⟩ = .ok (.bool true)
      ∧ evaluate "True" ⟨[("True", .int 5)]⟩ ≠ .ok (.int 5) := by
  have hword : evaluate "True" ⟨[("True", .int 5)]⟩ = .ok (.bool true) :=
    (evaluate_word (k := .trueWord) (by decide)).1 (.bool true) rfl
  refine ⟨rfl, List.mem_cons_self, rfl, by decide +kernel, hword, ?_⟩
  rw [hword]
  intro h
  cases h

end Fanout.Source
