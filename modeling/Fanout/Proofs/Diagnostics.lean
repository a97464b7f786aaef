/-
  Fanout.Proofs.Diagnostics
  ─────────────────────────
  **Where a diagnostic of a template points.**

  The line of a diagnostic is counted from the start of the file, although
  the template is filled without its header: the lines of the header and
  those of the template are the parts of one text.

    • `StandsAt` — what is left of a template stands at a place of the text,
    • `Pointed` — a failure points at the first dollar sign of a template
      that cannot be filled,
    • `pointed_of_render`, `pointed_of_generate` — every failure to fill the
      template of a source that was read does.
-/
import Fanout.Proofs.Generate
import Fanout.Proofs.Source.Record
import Fanout.Proofs.Template.Scan

namespace Fanout

open Fanout.Text Fanout.Template Fanout.Expr Fanout.Source Fanout.Files

/-! ## §1. Places of a text. -/

/-- What is left behind a part of a template stands at a place of the text.  Cut at its line
feeds, the text has the lines of the header before the first line that is the mark, then the
whole lines of the part; the line of the place comes next, and at its byte stands the dollar
sign that begins what is left. -/
def StandsAt (text before rest : List Char) (place : Place) : Prop :=
  ∃ header sentinel between lead tail behind,
    splitAt '\n' text =
      header ++ sentinel :: (between ++ (lead ++ '$' :: tail) :: behind) ∧
    trim sentinel = mark.toList ∧ (∀ line ∈ header, trim line ≠ mark.toList) ∧
    splitAt '\n' before = between ++ [lead] ∧ splitAt '\n' rest = ('$' :: tail) :: behind ∧
    place = ⟨(header ++ sentinel :: between).length + 1, byteLength lead + 1⟩

/-- **The template of a source is found in the text at its line.**  Where a dollar sign begins
the rest of the template, the place that is counted from the first line of the template is its
place in the text. -/
theorem standsAt_of_ofText {path : Path} {text : String} {s : Source}
    (h : ofText path text = .ok s) {before rest : List Char}
    (htemplate : s.template.toList = before ++ '$' :: rest) :
    StandsAt text.toList before ('$' :: rest)
      ((⟨s.templateLine, 1⟩ : Place).afterAll before) := by
  obtain ⟨front, last, hcut, hfront, hlast, hline, -⟩ := exists_cut_of_ofText h
  have hne : lines s.template.toList ≠ [] := by
    intro hnil
    have hflat := flatten_lines s.template.toList
    rw [hnil, htemplate] at hflat
    exact absurd hflat.symm (List.append_ne_nil_of_right_ne_nil before (List.cons_ne_nil _ _))
  -- The lines of the header are parts of the text, and then come those of the template.
  obtain ⟨parts, hparts, hsplit⟩ := exists_splitAt_lines (front ++ [last]) hcut hne
  obtain ⟨header, tailParts, rfl, rfl, htail⟩ := List.map_eq_append_iff.mp hparts.symm
  obtain ⟨sentinel, rfl, rfl⟩ : ∃ sentinel, tailParts = [sentinel] ∧ last = sentinel ++ ['\n'] := by
    obtain ⟨sentinel, hsentinel, hmap⟩ := List.map_eq_singleton_iff.mp htail
    exact ⟨sentinel, hsentinel, hmap.symm⟩
  -- The cut of the template falls into one of its parts.
  obtain ⟨between, lead, hbefore, hplace⟩ := exists_parts_afterAll s.templateLine before
  have hdollar : '$' ≠ '\n' := by decide
  obtain ⟨tail, behind, hrest⟩ := exists_splitAt_cons hdollar rest
  have hbody := splitAt_append '\n' ('$' :: rest) hrest before hbefore
  refine ⟨header, sentinel, between, lead, tail, behind, ?_, ?_, ?_, hbefore, hrest, ?_⟩
  · rw [hsplit, flatten_lines, htemplate, hbody, List.append_assoc, List.singleton_append]
  · rw [← trim_append_lineFeed]
    exact (isMark_iff _).mp hlast
  · intro line hmem htrim
    have hmark := hfront (line ++ ['\n']) (List.mem_map_of_mem hmem)
    rw [(isMark_iff _).mpr (by rw [trim_append_lineFeed]; exact htrim)] at hmark
    cases hmark
  · rw [hplace, hline]
    simp
    omega

/-! ## §2. Failures. -/

/-- A failure to fill the template of a source that was read from a text points at the first
dollar sign that cannot be filled. -/
def Pointed (text : String) (s : Source) (b : Bindings) (cause : RenderError) : Prop :=
  ∃ place before rest, s.template.toList = before ++ rest ∧ Passed b before rest ∧
    Offends b place rest cause ∧ StandsAt text.toList before rest place

/-- **Every failure to fill the template of a source points into the text** that the source was
read from. -/
theorem pointed_of_render {path : Path} {text : String} {s : Source}
    (hs : ofText path text = .ok s) {b : Bindings} {cause : RenderError}
    (h : render s.template s.templateLine b = .error cause) : Pointed text s b cause := by
  have hsubstitute : substitute s.template s.templateLine b = .error cause := by
    unfold render at h
    cases hfilled : substitute s.template s.templateLine b with
    | ok filled =>
        rw [hfilled] at h
        cases h
    | error e =>
        rw [hfilled] at h
        obtain rfl : e = cause := Except.error.inj h
        rfl
  obtain ⟨before, rest, htemplate, hpassed, hoffends⟩ := exists_of_substitute_error hsubstitute
  obtain ⟨behind, rfl⟩ := hoffends.exists_cons
  exact ⟨_, before, _, htemplate, hpassed, hoffends, standsAt_of_ofText hs htemplate⟩

/-- **Where the diagnostic of a source points.**  If a source that was read from a text ends with
a failure to fill its template, the failure is that of one of its combinations, whose derived
names have values.  Its line is a line of the text behind the mark, and its column that of a
dollar sign of the line: the first one of the template that cannot be filled. -/
theorem pointed_of_generate {path : Path} {text : String} {s : Source}
    (hs : ofText path text = .ok s) (o : OutputSettings) (files : FileSystem) {file : String}
    {c : Combination} {cause : RenderError}
    (h : (generate o files s).result = .error (.render file c cause)) :
    file = path.fileName ∧
      ∃ i < combinationVolume s.vars, (s.resolution i).2 = none ∧ c = s.resolved i ∧
        Pointed text s c.bindings cause := by
  rcases generate_cases o files s with
    ⟨-, hmany | ⟨e, hderived⟩⟩ | ⟨-, hresolved, w, hw, -, hresult⟩
  · rw [hmany] at h
    cases h
  · rw [hderived] at h
    cases h
  · -- All combinations are resolved, so the failure is that of the one that stops the writes.
    obtain ⟨k, -, -, hend⟩ := writeAll_spec o s
      ((List.range (combinationVolume s.vars)).map s.resolved) files
    rw [hresult, hw] at h
    rcases hend with ⟨-, hok⟩ | ⟨d, fault, hd, hstopped, herror⟩
    · rw [hok] at h
      cases h
    · rw [herror] at h
      obtain rfl : fault = .render file c cause := Except.error.inj h
      obtain ⟨i, hi, rfl⟩ := List.mem_map.mp (List.mem_of_getElem? hd)
      have hi := List.mem_range.mp hi
      cases hstopped with
      | rendering hrender =>
          rw [(of_ofText hs).1]
          exact ⟨rfl, i, hi, hresolved i hi, rfl, pointed_of_render hs hrender⟩

/-- A source with a name that is not declared, behind a letter of two bytes. -/
def undeclared : Source :=
  ⟨⟨"demo.crankgen"⟩, [.domain ⟨"a", .typed, [.int 1, .int 2], 1⟩], "é$a $$\nü$b\n", 3⟩

/-- Its diagnostic points at the second line of the template. -/
theorem pointed_undeclared :
    ofText ⟨"demo.crankgen"⟩ "VAR a = 1, 2\nBEGIN_TEMPLATE\né$a $$\nü$b\n" = .ok undeclared ∧
      (generate .standard (.empty ["work"]) undeclared).result =
        .error (.render "demo.crankgen" (undeclared.resolved 0) (.undefinedName "b" ⟨4, 3⟩)) ∧
      Pointed "VAR a = 1, 2\nBEGIN_TEMPLATE\né$a $$\nü$b\n" undeclared
        (undeclared.resolved 0).bindings (.undefinedName "b" ⟨4, 3⟩) := by
  have htext : ofText ⟨"demo.crankgen"⟩ "VAR a = 1, 2\nBEGIN_TEMPLATE\né$a $$\nü$b\n" =
      .ok undeclared := rfl
  have hresult : (generate .standard (.empty ["work"]) undeclared).result =
      .error (.render "demo.crankgen" (undeclared.resolved 0) (.undefinedName "b" ⟨4, 3⟩)) := by
    decide +kernel
  obtain ⟨-, i, -, -, -, hpointed⟩ := pointed_of_generate htext .standard (.empty ["work"]) hresult
  exact ⟨htext, hresult, hpointed⟩

end Fanout
