/-
  Fanout.Proofs.Source.Edits
  ──────────────────────────
  **What an edit of a text changes.**

  Line numbers are the only thing that the reading of a line takes from the
  lines before it, apart from the names that they declare.  So reading
  commutes with a change of line numbers, and an edit has no effect
  elsewhere:

    • `readLines_renumber` — the same lines under other numbers,
    • `readLines_insert` — a note among the lines,
    • `ofText_append`, `ofText_append_of_error` — more text at the end,
    • `ofText_insert` — a note before the mark,
    • `edits_ofText` — both.
-/
import Fanout.Proofs.Source.Lines

namespace Fanout

/-! ## §1. Other line numbers. -/

/-- A declaration on another line. -/
def Declaration.renumber (f : Nat → Nat) : Declaration → Declaration
  | domain v => domain { v with line := f v.line }
  | derived d => derived { d with line := f d.line }

namespace Source

open Fanout.Text Fanout.Expr

/-- A fault of a line when lines have other numbers. -/
def LineFault.renumber (f : Nat → Nat) : LineFault → LineFault
  | .duplicate name first => .duplicate name (f first)
  | fault => fault

/-- A fault of a header when lines have other numbers. -/
def HeaderFault.renumber (f : Nat → Nat) : HeaderFault → HeaderFault
  | .line number fault => .line (f number) (fault.renumber f)
  | .missingTemplate => .missingTemplate

/-- A fault of a source when lines have other numbers. -/
def Fault.renumber (f : Nat → Nat) : Fault → Fault
  | .line path number fault => .line path (f number) (fault.renumber f)
  | fault => fault

/-- A source when lines have other numbers. -/
def renumber (f : Nat → Nat) (s : Source) : Source :=
  { s with
    declarations := s.declarations.map (Declaration.renumber f)
    templateLine := f s.templateLine }

/-- What comes of a text when lines have other numbers. -/
def renumberOutcome (f : Nat → Nat) : Except Fault Source → Except Fault Source
  | .error fault => .error (fault.renumber f)
  | .ok s => .ok (s.renumber f)

/-- What comes of lines before the mark when they have other numbers. -/
def renumberRun (f : Nat → Nat) :
    Except HeaderFault (List Declaration) → Except HeaderFault (List Declaration)
  | .error fault => .error (fault.renumber f)
  | .ok known => .ok (known.map (Declaration.renumber f))

@[simp] theorem name_renumber (f : Nat → Nat) (d : Declaration) : (d.renumber f).name = d.name := by
  cases d <;> rfl

@[simp] theorem line_renumber (f : Nat → Nat) (d : Declaration) :
    (d.renumber f).line = f d.line := by
  cases d <;> rfl

theorem ofHeader_renumber (path : Path) (f : Nat → Nat) (fault : HeaderFault) :
    Fault.ofHeader path (fault.renumber f) = (Fault.ofHeader path fault).renumber f := by
  cases fault <;> rfl

theorem declare_renumber (f : Nat → Nat) (d : Directive) (name : String) (right : List Char)
    (number : Nat) :
    declare d name right (f number) = (declare d name right number).renumber f := by
  cases d <;> rfl

/-! ## §2. Reading under other numbers. -/

theorem lineOf?_renumber (f : Nat → Nat) (known : List Declaration) (name : String) :
    lineOf? (known.map (Declaration.renumber f)) name = (lineOf? known name).map f := by
  unfold lineOf?
  induction known with
  | nil => rfl
  | cons d known ih =>
      rw [List.map_cons, List.find?_cons, List.find?_cons, name_renumber]
      cases d.name == name with
      | true => simp
      | false => exact ih

/-- **A directive is read as before**, on its new line. -/
theorem readDirective_renumber (f : Nat → Nat) (known : List Declaration) (d : Directive)
    (line : List Char) (number : Nat) :
    readDirective (known.map (Declaration.renumber f)) d line (f number) =
      match readDirective known d line number with
      | .error fault => .error (fault.renumber f)
      | .ok decl => .ok (decl.renumber f) := by
  unfold readDirective
  cases splitFirst? '=' line with
  | none => rfl
  | some sides =>
      dsimp only
      split
      · rfl
      · split
        · rfl
        · rw [lineOf?_renumber]
          cases lineOf? known _ with
          | none =>
              show Except.ok (declare d _ _ (f number)) = _
              rw [declare_renumber]
          | some first => rfl

theorem readLine_renumber (f : Nat → Nat) (known : List Declaration) (line : List Char)
    (number : Nat) :
    readLine (f number) (known.map (Declaration.renumber f)) line =
      renumberRun f (readLine number known line) := by
  unfold readLine
  cases directive? line with
  | none => rfl
  | some d =>
      dsimp only
      rw [readDirective_renumber]
      cases readDirective known d line number with
      | error fault => rfl
      | ok decl =>
          show Except.ok (_ ++ [_]) = Except.ok (List.map _ (known ++ [decl]))
          rw [List.map_append, List.map_singleton]

/-- **A run of lines is the same under other numbers.** -/
theorem readLines_renumber (f : Nat → Nat) (rest : List (List Char)) :
    ∀ (number other : Nat) (known : List Declaration),
      (∀ i < rest.length, f (number + i) = other + i) →
        readLines other (known.map (Declaration.renumber f)) rest =
          renumberRun f (readLines number known rest) := by
  induction rest with
  | nil => intro number other known _; rfl
  | cons line rest ih =>
      intro number other known h
      have hfirst : f number = other := h 0 (Nat.succ_pos _)
      rw [readLines_cons, readLines_cons, ← hfirst, readLine_renumber]
      cases readLine number known line with
      | error fault => rfl
      | ok known =>
          refine ih (number + 1) (f number + 1) known fun i hi => ?_
          rw [Nat.add_assoc, Nat.add_comm 1 i, h (i + 1) (Nat.succ_lt_succ hi), hfirst]
          omega

/-! ## §3. A note among the lines. -/

/-- The number of a line when one more line is put behind the first `count`. -/
def pastNote (count number : Nat) : Nat := if count < number then number + 1 else number

/-- **A note among the lines moves those behind it down by one**, and changes nothing else. -/
theorem readLines_insert {note : List Char} (hnote : ¬ IsDirectiveLine note)
    (front rest : List (List Char)) :
    readLines 1 [] (front ++ note :: rest) =
      renumberRun (pastNote front.length) (readLines 1 [] (front ++ rest)) := by
  -- The lines before the note keep their numbers, so what they declare keeps its own.
  have hfront : readLines 1 [] front =
      renumberRun (pastNote front.length) (readLines 1 [] front) := by
    refine readLines_renumber (pastNote front.length) front 1 1 [] fun i hi => ?_
    rw [pastNote, if_neg (by omega)]
  rw [readLines_append, readLines_append]
  cases hread : readLines 1 [] front with
  | error fault =>
      rw [hread] at hfront
      exact hfront
  | ok known =>
      rw [hread] at hfront
      have hknown : known.map (Declaration.renumber (pastNote front.length)) = known :=
        (Except.ok.inj hfront).symm
      show (readLine (1 + front.length) known note).bind _ = _
      rw [readLine, (directive?_eq_none_iff note).mpr hnote]
      show readLines (1 + front.length + 1) known rest =
        renumberRun (pastNote front.length) (readLines (1 + front.length) known rest)
      rw [← readLines_renumber (pastNote front.length) rest (1 + front.length)
        (1 + front.length + 1) known, hknown]
      intro i _
      rw [pastNote, if_pos (by omega)]
      omega

/-! ## §4. Texts. -/

/-- The source with more text behind its template. -/
def appendTemplate (s : Source) (more : String) : Source :=
  { s with template := s.template ++ more }

/-- The lines up to the first mark end where a line ends if one of the marks does. -/
theorem endsLine_of_mark {text : String} {front rest : List (List Char)} {last : List Char}
    (hlines : lines text.toList = front ++ last :: rest)
    (hfront : ∀ line ∈ front, isMark line = false)
    (hmark : ∃ line ∈ lines text.toList, trim line = mark.toList ∧ EndsLine line) :
    EndsLine (front ++ [last]).flatten := by
  by_cases hrest : rest = []
  · -- Only the last line can be the mark that ends where a line ends.
    obtain ⟨line, hline, htrim, hends⟩ := hmark
    have hsame : line = last := by
      rw [hlines, hrest] at hline
      rcases List.mem_append.mp hline with hline | hline
      · exact absurd htrim (isMark_eq_false_iff.mp (hfront line hline))
      · exact List.mem_singleton.mp hline
    rw [List.flatten_append, List.flatten_singleton, ← hsame]
    exact (endsLine_of_lines hlines (List.cons_ne_nil _ _)).append hends
  · rw [List.append_cons] at hlines
    exact endsLine_of_lines hlines hrest

/-- A text with the mark, cut there. -/
theorem exists_mark {text : String} (hmark : ∃ line ∈ lines text.toList, trim line = mark.toList) :
    ∃ last rest, lines text.toList = beforeMark (lines text.toList) ++ last :: rest ∧
      isMark last = true := by
  rcases cases_beforeMark (lines text.toList) with ⟨-, hno⟩ | hcut
  · obtain ⟨line, hline, htrim⟩ := hmark
    exact absurd htrim (isMark_eq_false_iff.mp (hno line hline))
  · exact hcut

/-- **Text behind a mark that ends its line joins the template**, and nothing else changes. -/
theorem ofText_append (path : Path) {text : String} (more : String)
    (hmark : ∃ line ∈ lines text.toList, trim line = mark.toList ∧ EndsLine line) :
    ofText path (text ++ more) = (ofText path text).map fun s => s.appendTemplate more := by
  obtain ⟨last, rest, hlines, hlast⟩ :=
    exists_mark (hmark.imp fun _ h => ⟨h.1, h.2.1⟩)
  have hfront := isMark_of_mem_beforeMark (lines text.toList)
  have hends := endsLine_of_mark hlines hfront hmark
  -- The lines up to the mark stay, and the rest of the text goes on.
  have hlines' : lines (text ++ more).toList =
      beforeMark (lines text.toList) ++ last :: lines (rest.flatten ++ more.toList) := by
    have hsplit := hlines
    rw [List.append_cons] at hsplit
    rw [String.toList_append, lines_append_of_lines hsplit hends, ← List.append_cons]
  cases hread : readLines 1 [] (beforeMark (lines text.toList)) with
  | error fault =>
      rw [ofText_of_readLines_error path hlines' hfront hread,
        ofText_of_readLines_error path hlines hfront hread]
      rfl
  | ok known =>
      rw [ofText_of_mark path hlines' hfront hlast hread,
        ofText_of_mark path hlines hfront hlast hread, flatten_lines, String.ofList_append,
        String.ofList_toList]
      rfl

/-- **A bad line before the mark stays the fault of the text**, whatever follows the mark. -/
theorem ofText_append_of_error (path : Path) {text : String} (more : String)
    (hmark : ∃ line ∈ lines text.toList, trim line = mark.toList) {fault : Fault}
    (h : ofText path text = .error fault) : ofText path (text ++ more) = .error fault := by
  obtain ⟨last, rest, hlines, hlast⟩ := exists_mark hmark
  have hfront := isMark_of_mem_beforeMark (lines text.toList)
  have hends := endsLine_of_lines hlines (List.cons_ne_nil last rest)
  have hlines' := lines_append_of_lines hlines hends more.toList
  rw [← String.toList_append] at hlines'
  cases hread : readLines 1 [] (beforeMark (lines text.toList)) with
  | error cause =>
      rw [ofText_of_readLines_error path hlines hfront hread] at h
      rw [ofText_of_readLines_error path hlines' hfront hread, h]
  | ok known =>
      rw [ofText_of_mark path hlines hfront hlast hread] at h
      cases h

/-- Two texts with the same lines from the mark on differ as their lines before it do. -/
theorem ofText_renumber (path : Path) (f : Nat → Nat) {text text' : String}
    {front front' rest : List (List Char)} (hlines : lines text.toList = front ++ rest)
    (hlines' : lines text'.toList = front' ++ rest) (hfront : ∀ line ∈ front, isMark line = false)
    (hfront' : ∀ line ∈ front', isMark line = false)
    (hrest : rest = [] ∨ ∃ last more, rest = last :: more ∧ isMark last = true)
    (hlength : f (front.length + 2) = front'.length + 2)
    (hread : readLines 1 [] front' = renumberRun f (readLines 1 [] front)) :
    ofText path text' = renumberOutcome f (ofText path text) := by
  cases hrun : readLines 1 [] front with
  | error fault =>
      rw [hrun] at hread
      rw [ofText_of_readLines_error path hlines' hfront' hread,
        ofText_of_readLines_error path hlines hfront hrun, ofHeader_renumber]
      rfl
  | ok known =>
      rw [hrun] at hread
      rcases hrest with rfl | ⟨last, more, rfl, hlast⟩
      · rw [List.append_nil] at hlines hlines'
        rw [← hlines] at hfront hrun
        rw [← hlines'] at hfront' hread
        rw [ofText_of_not_mark path hfront' hread, ofText_of_not_mark path hfront hrun]
        rfl
      · rw [ofText_of_mark path hlines' hfront' hlast hread,
          ofText_of_mark path hlines hfront hlast hrun, ← hlength]
        rfl

/-- **A note before the mark moves the lines behind it down by one**, and changes nothing
else. -/
theorem ofText_insert (path : Path) {before : String} (note : Note) (behind : String)
    (hends : EndsLine before.toList)
    (hbefore : ∀ line ∈ lines before.toList, trim line ≠ mark.toList) :
    ofText path (before ++ (note.text ++ "\n") ++ behind) =
      renumberOutcome (pastNote (lines before.toList).length) (ofText path (before ++ behind)) := by
  have hold : lines (before ++ behind).toList = lines before.toList ++ lines behind.toList := by
    rw [String.toList_append, lines_append _ _ hends]
  have hnew : lines (before ++ (note.text ++ "\n") ++ behind).toList =
      lines before.toList ++ (note.text.toList ++ ['\n']) :: lines behind.toList := by
    rw [String.toList_append, String.toList_append, String.toList_append, List.append_assoc,
      lines_append _ _ hends, List.append_assoc]
    show _ ++ lines (note.text.toList ++ '\n' :: behind.toList) = _
    rw [lines_append_cons _ _ note.oneLine]
  -- The lines before the mark are those before the note and some of those behind it.
  obtain ⟨rest, hbehind, hrest⟩ := exists_rest (lines behind.toList)
  have hfront : ∀ line ∈ lines before.toList ++ beforeMark (lines behind.toList),
      isMark line = false := by
    intro line hline
    rcases List.mem_append.mp hline with hline | hline
    · exact isMark_eq_false_iff.mpr (hbefore line hline)
    · exact isMark_of_mem_beforeMark _ line hline
  have hfront' : ∀ line ∈ lines before.toList ++
      (note.text.toList ++ ['\n']) :: beforeMark (lines behind.toList), isMark line = false := by
    intro line hline
    rcases List.mem_append.mp hline with hline | hline
    · exact hfront line (List.mem_append_left _ hline)
    · rcases List.mem_cons.mp hline with rfl | hline
      · exact isMark_eq_false_iff.mpr note.notMark
      · exact hfront line (List.mem_append_right _ hline)
  have hlength : pastNote (lines before.toList).length
      ((lines before.toList ++ beforeMark (lines behind.toList)).length + 2) =
      (lines before.toList ++
        (note.text.toList ++ ['\n']) :: beforeMark (lines behind.toList)).length + 2 := by
    rw [List.length_append, List.length_append, List.length_cons, pastNote, if_pos (by omega)]
    omega
  rw [hbehind, ← List.append_assoc] at hold
  rw [hbehind, ← List.cons_append, ← List.append_assoc] at hnew
  exact ofText_renumber path _ hold hnew hfront hfront' hrest hlength
    (readLines_insert note.notDirective _ _)

/-- **What an edit of a text changes.**  Text behind a mark that ends its line joins the
template and changes nothing else, and a bad line before the mark stays the fault of the text.
A note at the end of a line before the mark adds one to the numbers of the lines behind it,
wherever they are recorded or told, and changes nothing else. -/
theorem edits_ofText (path : Path) :
    (∀ text more : String,
      (∃ line ∈ lines text.toList, trim line = mark.toList ∧ EndsLine line) →
        ofText path (text ++ more) = (ofText path text).map fun s => s.appendTemplate more) ∧
    (∀ text more : String, (∃ line ∈ lines text.toList, trim line = mark.toList) →
      ∀ fault, ofText path text = .error fault → ofText path (text ++ more) = .error fault) ∧
    ∀ (before : String) (note : Note) (behind : String), EndsLine before.toList →
      (∀ line ∈ lines before.toList, trim line ≠ mark.toList) →
        ofText path (before ++ (note.text ++ "\n") ++ behind) =
          renumberOutcome (pastNote (lines before.toList).length)
            (ofText path (before ++ behind)) := by
  refine ⟨fun text more hmark => ofText_append path more hmark, ?_, ?_⟩
  · intro text more hmark fault hfault
    exact ofText_append_of_error path more hmark hfault
  · intro before note behind hends hbefore
    exact ofText_insert path note behind hends hbefore

/-- A template that grows, a bad line before a mark at the end, and a note between two
declarations of one name. -/
theorem edits_demo :
    ofText ⟨"demo.crankgen"⟩ ("VAR a = 1\nBEGIN_TEMPLATE\n" ++ "$a\n") =
        .ok ⟨⟨"demo.crankgen"⟩, [.domain ⟨"a", .typed, [.int 1], 1⟩], "$a\n", 3⟩ ∧
      ofText ⟨"demo.crankgen"⟩ ("VAR a\nBEGIN_TEMPLATE" ++ "S") =
        .error (.line ⟨"demo.crankgen"⟩ 1 (.missingSeparator (.domain .typed))) ∧
      ofText ⟨"demo.crankgen"⟩ ("VAR a = 1\n" ++ ("; note" ++ "\n") ++ "SVAR a = 2\n") =
        .error (.line ⟨"demo.crankgen"⟩ 3 (.duplicate "a" 1)) := by
  obtain ⟨happend, herror, hinsert⟩ := edits_ofText ⟨"demo.crankgen"⟩
  refine ⟨?_, ?_, ?_⟩
  · rw [happend _ _ ⟨"BEGIN_TEMPLATE\n".toList, by decide, by decide, .inr (by decide)⟩]
    rfl
  · exact herror _ _ ⟨"BEGIN_TEMPLATE".toList, by decide, by decide⟩ _ rfl
  · have hnote := hinsert "VAR a = 1\n" ⟨"; note", by decide, by decide, by decide⟩
      "SVAR a = 2\n" (.inr (by decide)) (by decide)
    exact hnote.trans rfl

end Source

end Fanout
