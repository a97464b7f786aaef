/-
  Fanout.Proofs.Source.Faults
  ───────────────────────────
  **Which line of a header is wrong, and why.**

  `Bad` and `Wrong` are said of a line and the lines before it, without the
  reading of headers.  Lines are read as long as none of them is bad
  (`Flawless`), and reading stops at the first one that is:

    • `lineOf?_eq_some_iff` — the line that declares a name,
    • `readLine_eq_error_iff` — one line more is read or wrong,
    • `readLines_cases`, `readLines_of_firstWrong` — a run stops at
      the first wrong line,
    • `outcome_ofText` — what comes of any text.
-/
import Mathlib.Data.Nat.Find
import Fanout.Proofs.Source.Lines

namespace Fanout.Source

open Fanout.Text Fanout.Expr

/-! ## §1. Bad lines. -/

/-- A line is a directive and names a name. -/
def Declares (line name : List Char) : Prop := ∃ d, IsDirective d line ∧ Names d line name

/-- The line with the index `first`, from 0, is the first of some lines to declare a name. -/
def FirstDeclared (front : List (List Char)) (name : List Char) (first : Nat) : Prop :=
  (∃ line, front[first]? = some line ∧ Declares line name) ∧
    ∀ i < first, ∀ line, front[i]? = some line → ¬ Declares line name

/-- A directive line behind other lines is bad: it has no equals sign, or what it names before
the first one is empty, or no name, or the name that an earlier line declares. -/
def Bad (front : List (List Char)) (line : List Char) : Prop :=
  ∃ d, IsDirective d line ∧
    ('=' ∉ line ∨ ∃ name, Names d line name ∧
      (name = [] ∨ isName name = false ∨ ∃ earlier ∈ front, Declares earlier name))

/-- What is wrong with a directive line behind other lines, the first of four faults. -/
inductive Wrong (front : List (List Char)) (line : List Char) : LineFault → Prop where
  /-- It has no equals sign. -/
  | missingSeparator {d : Directive} (hd : IsDirective d line) (hnone : '=' ∉ line) :
      Wrong front line (.missingSeparator d)
  /-- It names nothing. -/
  | missingName {d : Directive} (hd : IsDirective d line) (hnames : Names d line []) :
      Wrong front line (.missingName d)
  /-- What it names is no name. -/
  | invalidName {d : Directive} {name : List Char} (hd : IsDirective d line)
      (hnames : Names d line name) (hne : name ≠ []) (hname : isName name = false) :
      Wrong front line (.invalidName (String.ofList name))
  /-- An earlier line declares the name; the line of the first that does is told. -/
  | duplicate {d : Directive} {name : List Char} {first : Nat} (hd : IsDirective d line)
      (hnames : Names d line name) (hname : isName name = true)
      (hfirst : FirstDeclared front name first) :
      Wrong front line (.duplicate (String.ofList name) (first + 1))

/-- No line is bad. -/
def Flawless (front : List (List Char)) : Prop :=
  ∀ before line behind, front = before ++ line :: behind → ¬ Bad before line

/-- The first bad line of some lines, from 1, and what is wrong with it. -/
def FirstWrong (front : List (List Char)) (number : Nat) (fault : LineFault) : Prop :=
  ∃ before line behind, front = before ++ line :: behind ∧ number = before.length + 1 ∧
    Flawless before ∧ Wrong before line fault

/-- A name that an earlier line declares has a first line that declares it. -/
theorem exists_firstDeclared {front : List (List Char)} {name earlier : List Char}
    (hmem : earlier ∈ front) (hdeclares : Declares earlier name) :
    ∃ first, FirstDeclared front name first := by
  classical
  obtain ⟨i, hi⟩ := List.getElem?_of_mem hmem
  have hsome : ∃ i, ∃ line, front[i]? = some line ∧ Declares line name :=
    ⟨i, earlier, hi, hdeclares⟩
  refine ⟨Nat.find hsome, Nat.find_spec hsome, fun j hj line hline hdecl => ?_⟩
  exact Nat.find_min hsome hj ⟨line, hline, hdecl⟩

/-- **A line is bad if and only if something is wrong with it.** -/
theorem bad_iff (front : List (List Char)) (line : List Char) :
    Bad front line ↔ ∃ fault, Wrong front line fault := by
  constructor
  · rintro ⟨d, hd, hnone | ⟨name, hnames, hcause⟩⟩
    · exact ⟨_, .missingSeparator hd hnone⟩
    · by_cases hne : name = []
      · exact ⟨_, .missingName hd (by rw [← hne]; exact hnames)⟩
      · cases hname : isName name with
        | false => exact ⟨_, .invalidName hd hnames hne hname⟩
        | true =>
            rcases hcause with hempty | hno | ⟨earlier, hmem, hdeclares⟩
            · exact absurd hempty hne
            · rw [hname] at hno
              cases hno
            · obtain ⟨first, hfirst⟩ := exists_firstDeclared hmem hdeclares
              exact ⟨_, .duplicate hd hnames hname hfirst⟩
  · rintro ⟨fault, hwrong⟩
    cases hwrong with
    | missingSeparator hd hnone => exact ⟨_, hd, .inl hnone⟩
    | missingName hd hnames => exact ⟨_, hd, .inr ⟨[], hnames, .inl rfl⟩⟩
    | invalidName hd hnames _ hname => exact ⟨_, hd, .inr ⟨_, hnames, .inr (.inl hname)⟩⟩
    | duplicate hd hnames _ hfirst =>
        obtain ⟨earlier, hearlier, hdeclares⟩ := hfirst.1
        exact ⟨_, hd, .inr ⟨_, hnames,
          .inr (.inr ⟨earlier, List.mem_of_getElem? hearlier, hdeclares⟩)⟩⟩

theorem flawless_nil : Flawless [] := by
  intro before line behind h
  cases before <;> cases h

/-- One line more is flawless if the lines before it are and it is not bad. -/
theorem flawless_concat {front : List (List Char)} {line : List Char} (hfront : Flawless front)
    (hline : ¬ Bad front line) : Flawless (front ++ [line]) := by
  intro before other behind h hbad
  rcases List.eq_nil_or_concat behind with rfl | ⟨rest, last, rfl⟩
  · obtain ⟨rfl, hsame⟩ := List.append_inj' h rfl
    obtain rfl := (List.cons.inj hsame).1
    exact hline hbad
  · rw [List.concat_eq_append, ← List.cons_append, ← List.append_assoc] at h
    exact hfront before other rest (List.append_inj' h rfl).1 hbad

/-- The first bad line stays the first when lines follow. -/
theorem FirstWrong.append {front : List (List Char)} {number : Nat} {fault : LineFault}
    (h : FirstWrong front number fault) (more : List (List Char)) :
    FirstWrong (front ++ more) number fault := by
  obtain ⟨before, line, behind, rfl, hnumber, hflawless, hwrong⟩ := h
  exact ⟨before, line, behind ++ more, by simp, hnumber, hflawless, hwrong⟩

theorem FirstWrong.not_flawless {front : List (List Char)} {number : Nat} {fault : LineFault}
    (h : FirstWrong front number fault) : ¬ Flawless front := by
  obtain ⟨before, line, behind, hfront, -, -, hwrong⟩ := h
  exact fun hflawless => hflawless before line behind hfront ((bad_iff _ _).mpr ⟨fault, hwrong⟩)

/-! ## §2. The line that declares a name. -/

variable {front : List (List Char)} {known : List Declaration}

/-- The line of a declaration is a directive that names its name. -/
theorem Makes.declares {line between right : List Char} {d : Declaration}
    (h : Makes line between right d) : Declares line d.name.toList := by
  obtain ⟨c, rest, hbetween, hblank⟩ := h.blank
  refine ⟨d.directive, ⟨c, rest ++ '=' :: right, ?_, .inl hblank⟩, between, right, ⟨h.line_eq, ?_⟩,
    h.name⟩
  · rw [h.line_eq, hbetween, List.cons_append]
  · exact fun hmem => h.noEquals (List.mem_append_right _ hmem)

theorem Declares.unique {line name name' : List Char} (h : Declares line name)
    (h' : Declares line name') : name = name' := by
  obtain ⟨d, hd, hnames⟩ := h
  obtain ⟨e, he, hnames'⟩ := h'
  obtain rfl := hd.unique he
  exact hnames.unique hnames'

/-- A line that declares a name is the line of a declaration of it. -/
theorem Records.exists_of_declares (h : Records front known) {i : Nat} {line name : List Char}
    (hline : front[i]? = some line) (hdeclares : Declares line name) :
    ∃ d ∈ known, d.line = i + 1 ∧ d.name.toList = name := by
  have hdirective : IsDirectiveLine line := hdeclares.imp fun _ he => he.1
  obtain ⟨d, hd, hnumber⟩ := List.mem_map.mp (h.recorded i line hline hdirective)
  obtain ⟨j, other, between, right, hj, hother, hmakes⟩ := h.made d hd
  obtain rfl : j = i := by omega
  rw [hline, Option.some.injEq] at hother
  rw [← hother] at hmakes
  exact ⟨d, hd, hnumber, hmakes.declares.unique hdeclares⟩

/-- Of declarations whose names differ the one of a name is found. -/
theorem lineOf?_eq_some_iff_mem (hnodup : (known.map Declaration.name).Nodup) (name : String)
    (number : Nat) :
    lineOf? known name = some number ↔ ∃ d ∈ known, d.name = name ∧ d.line = number := by
  unfold lineOf?
  rw [Option.map_eq_some_iff]
  constructor
  · rintro ⟨d, hd, hnumber⟩
    exact ⟨d, List.mem_of_find?_eq_some hd, by simpa using List.find?_some hd, hnumber⟩
  · rintro ⟨d, hd, rfl, hnumber⟩
    cases hfind : known.find? fun e => e.name == d.name with
    | none => exact absurd (List.find?_eq_none.mp hfind d hd) (by simp)
    | some e =>
        have hname : e.name = d.name := by simpa using List.find?_some hfind
        have hsame := List.inj_on_of_nodup_map hnodup (List.mem_of_find?_eq_some hfind) hd hname
        exact ⟨e, rfl, by rw [hsame]; exact hnumber⟩

/-- **A declared name is found on the first line that declares it.** -/
theorem lineOf?_eq_some_iff (hrecords : Records front known) (hwell : WellDeclared known)
    (name : List Char) (number : Nat) :
    lineOf? known (String.ofList name) = some number ↔
      ∃ first, number = first + 1 ∧ FirstDeclared front name first := by
  rw [lineOf?_eq_some_iff_mem hwell.nodup]
  constructor
  · rintro ⟨d, hd, hname, rfl⟩
    obtain ⟨i, line, between, right, hnumber, hline, hmakes⟩ := hrecords.made d hd
    have hdeclares := hmakes.declares
    rw [hname, String.toList_ofList] at hdeclares
    refine ⟨i, hnumber, ⟨line, hline, hdeclares⟩, fun j hj other hother hearlier => ?_⟩
    -- An earlier line would have a declaration of the same name.
    obtain ⟨e, he, henumber, hename⟩ := hrecords.exists_of_declares hother hearlier
    have hsame : e = d := by
      refine List.inj_on_of_nodup_map hwell.nodup he hd ?_
      rw [hname, ← hename, String.ofList_toList]
    rw [hsame, hnumber] at henumber
    omega
  · rintro ⟨first, rfl, ⟨line, hline, hdeclares⟩, -⟩
    obtain ⟨d, hd, hnumber, hname⟩ := hrecords.exists_of_declares hline hdeclares
    exact ⟨d, hd, by rw [← hname, String.ofList_toList], hnumber⟩

/-! ## §3. One line. -/

/-- What a directive line fails with is wrong with it. -/
theorem wrong_of_readDirective (hrecords : Records front known) (hwell : WellDeclared known)
    {d : Directive} {line : List Char} (hd : IsDirective d line) {number : Nat}
    {fault : LineFault} (h : readDirective known d line number = .error fault) :
    Wrong front line fault := by
  by_cases hmem : '=' ∈ line
  · obtain ⟨between, right, hcut⟩ := exists_cut hd hmem
    have hnames : Names d line (trim between) := ⟨between, right, hcut, rfl⟩
    -- The checks come in the order of the faults.
    rw [readDirective_of_cut hcut] at h
    split at h
    · rename_i hempty
      obtain rfl := Except.error.inj h
      rw [List.isEmpty_iff.mp hempty] at hnames
      exact .missingName hd hnames
    · rename_i hempty
      split at h
      · rename_i hname
        obtain rfl := Except.error.inj h
        have hne : trim between ≠ [] := fun hnil => hempty (by rw [hnil]; rfl)
        exact .invalidName hd hnames hne (by simpa using hname)
      · rename_i hname
        split at h
        · rename_i first hfirst
          obtain rfl := Except.error.inj h
          obtain ⟨i, rfl, hdeclared⟩ := (lineOf?_eq_some_iff hrecords hwell _ _).mp hfirst
          exact .duplicate hd hnames (by simpa using hname) hdeclared
        · cases h
  · rw [readDirective_of_not_mem hmem] at h
    obtain rfl := Except.error.inj h
    exact .missingSeparator hd hmem

/-- A directive line fails with what is wrong with it. -/
theorem readDirective_of_wrong (hrecords : Records front known) (hwell : WellDeclared known)
    {d : Directive} {line : List Char} (hd : IsDirective d line) (number : Nat)
    {fault : LineFault} (h : Wrong front line fault) :
    readDirective known d line number = .error fault := by
  cases h with
  | missingSeparator he hnone =>
      obtain rfl := hd.unique he
      rw [readDirective_of_not_mem hnone]
  | missingName he hnames =>
      obtain rfl := hd.unique he
      obtain ⟨between, right, hcut, hempty⟩ := hnames
      rw [readDirective_of_cut hcut, hempty]
      rfl
  | invalidName he hnames hne hname =>
      obtain rfl := hd.unique he
      obtain ⟨between, right, hcut, rfl⟩ := hnames
      rw [readDirective_of_cut hcut, if_neg (by simpa using hne), if_pos (by simpa using hname)]
  | duplicate he hnames hname hfirst =>
      obtain rfl := hd.unique he
      obtain ⟨between, right, hcut, rfl⟩ := hnames
      rw [readDirective_of_isName hcut hname,
        (lineOf?_eq_some_iff hrecords hwell _ _).mpr ⟨_, rfl, hfirst⟩]

/-- **One line more is read, or it is wrong.** -/
theorem readLine_eq_error_iff (hrecords : Records front known) (hwell : WellDeclared known)
    (line : List Char) (number : Nat) (fault : HeaderFault) :
    readLine number known line = .error fault ↔
      ∃ cause, fault = .line number cause ∧ Wrong front line cause := by
  cases hdirective : directive? line with
  | none =>
      have hno := (directive?_eq_none_iff line).mp hdirective
      rw [readLine, hdirective]
      constructor
      · intro h
        cases h
      · rintro ⟨cause, -, hwrong⟩
        obtain ⟨d, hd, -⟩ := (bad_iff front line).mpr ⟨cause, hwrong⟩
        exact absurd ⟨d, hd⟩ hno
  | some d =>
      have hd := (directive?_eq_some_iff line d).mp hdirective
      rw [readLine, hdirective]
      dsimp only
      cases hread : readDirective known d line number with
      | error cause =>
          constructor
          · intro h
            exact ⟨cause, (Except.error.inj h).symm, wrong_of_readDirective hrecords hwell hd hread⟩
          · rintro ⟨other, rfl, hwrong⟩
            rw [readDirective_of_wrong hrecords hwell hd number hwrong, Except.error.injEq] at hread
            rw [hread]
      | ok decl =>
          constructor
          · intro h
            cases h
          · rintro ⟨cause, -, hwrong⟩
            rw [readDirective_of_wrong hrecords hwell hd number hwrong] at hread
            cases hread

/-! ## §4. Runs. -/

/-- **A run that succeeds meets no bad line, and one that fails stops at the first.** -/
theorem readLines_cases (front : List (List Char)) : (∀ line ∈ front, isMark line = false) →
    (Flawless front ∧ ∃ known, readLines 1 [] front = .ok known) ∨
      ∃ number fault, FirstWrong front number fault ∧
        readLines 1 [] front = .error (.line number fault) := by
  -- The lines so far have been read, or one of them is the first bad one; then the next line.
  induction front using List.reverseRecOn with
  | nil => intro _; exact .inl ⟨flawless_nil, [], rfl⟩
  | append_singleton front line ih =>
      intro h
      have hfront : ∀ other ∈ front, isMark other = false :=
        fun other hother => h other (List.mem_append_left _ hother)
      rw [readLines_append]
      rcases ih hfront with ⟨hflawless, known, hread⟩ | ⟨number, fault, hfirst, hread⟩
      · have hrecords := records_of_readLines hfront hread
        have hwell := wellDeclared_of_readLines hfront hread
        have hiff := readLine_eq_error_iff hrecords hwell line (1 + front.length)
        rw [hread]
        show (_ ∧ ∃ known', readLines (1 + front.length) known [line] = .ok known') ∨
          ∃ number fault, _ ∧ readLines (1 + front.length) known [line] = _
        rw [readLines_singleton]
        cases hline : readLine (1 + front.length) known line with
        | ok known' =>
            refine .inl ⟨flawless_concat hflawless fun hbad => ?_, known', rfl⟩
            obtain ⟨cause, hwrong⟩ := (bad_iff front line).mp hbad
            rw [(hiff _).mpr ⟨cause, rfl, hwrong⟩] at hline
            cases hline
        | error fault =>
            obtain ⟨cause, rfl, hwrong⟩ := (hiff fault).mp hline
            exact .inr ⟨_, cause, ⟨front, line, [], rfl, Nat.add_comm _ _, hflawless, hwrong⟩, rfl⟩
      · refine .inr ⟨number, fault, hfirst.append [line], ?_⟩
        rw [hread]
        rfl

/-- **The first bad line is the one that a run reports.** -/
theorem readLines_of_firstWrong {number : Nat} {fault : LineFault}
    (hfront : ∀ line ∈ front, isMark line = false) (h : FirstWrong front number fault) :
    readLines 1 [] front = .error (.line number fault) := by
  obtain ⟨before, line, behind, rfl, rfl, hflawless, hwrong⟩ := h
  have hbefore : ∀ other ∈ before, isMark other = false :=
    fun other hother => hfront other (List.mem_append_left _ hother)
  rcases readLines_cases before hbefore with ⟨-, known, hread⟩ | ⟨number, cause, hfirst, -⟩
  · have hrecords := records_of_readLines hbefore hread
    have hwell := wellDeclared_of_readLines hbefore hread
    rw [readLines_append, hread]
    show (readLine (1 + before.length) known line).bind _ = _
    rw [(readLine_eq_error_iff hrecords hwell line (1 + before.length) _).mpr ⟨fault, rfl, hwrong⟩,
      Nat.add_comm 1]
    rfl
  · exact absurd hflawless hfirst.not_flawless

/-! ## §5. Texts. -/

/-- Where the lines before the mark can be read, the mark decides. -/
theorem cases_of_readLines_ok (path : Path) {text : String}
    (hread : readLines 1 [] (beforeMark (lines text.toList)) = .ok known) :
    (ofText path text = .error (.missingTemplate path) ∧
        ∀ line ∈ lines text.toList, trim line ≠ mark.toList) ∨
      (∃ s, ofText path text = .ok s) ∧ ∃ line ∈ lines text.toList, trim line = mark.toList := by
  rcases cases_beforeMark (lines text.toList) with ⟨hlines, hmark⟩ | ⟨last, rest, hlines, hlast⟩
  · rw [← hlines] at hread
    refine .inl ⟨ofText_of_not_mark path hmark hread, fun line hline => ?_⟩
    exact isMark_eq_false_iff.mp (hmark line hline)
  · have htext := ofText_of_mark path hlines (isMark_of_mem_beforeMark _) hlast hread
    refine .inr ⟨⟨_, htext⟩, last, ?_, (isMark_iff last).mp hlast⟩
    rw [hlines]
    exact List.mem_append_right _ List.mem_cons_self

/-- A line before the mark that cannot be read is the fault of the text. -/
theorem fault_of_readLines_error (path : Path) {text : String} {fault : HeaderFault}
    (hread : readLines 1 [] (beforeMark (lines text.toList)) = .error fault) :
    ofText path text = .error (.ofHeader path fault) := by
  obtain ⟨rest, hsplit, -⟩ := exists_rest (lines text.toList)
  exact ofText_of_readLines_error path hsplit (isMark_of_mem_beforeMark _) hread

/-- **A text fails with its first bad line**, and with no other. -/
theorem ofText_eq_line_iff (path : Path) (text : String) (number : Nat) (fault : LineFault) :
    ofText path text = .error (.line path number fault) ↔
      FirstWrong (beforeMark (lines text.toList)) number fault := by
  constructor
  · intro h
    rcases readLines_cases _ (isMark_of_mem_beforeMark (lines text.toList)) with
      ⟨-, known, hread⟩ | ⟨number', fault', hfirst, hread⟩
    · -- Without a bad line the text does not fail with one.
      rcases cases_of_readLines_ok path hread with ⟨hmissing, -⟩ | ⟨⟨s, hs⟩, -⟩
      · rw [hmissing] at h
        cases h
      · rw [hs] at h
        cases h
    · rw [fault_of_readLines_error path hread] at h
      cases h
      exact hfirst
  · intro h
    rw [fault_of_readLines_error path (readLines_of_firstWrong (isMark_of_mem_beforeMark _) h)]
    rfl

/-- A text with a bad line before the mark fails with a line. -/
theorem exists_line_of_not_flawless (path : Path) {text : String}
    (h : ¬ Flawless (beforeMark (lines text.toList))) :
    ∃ number fault, ofText path text = .error (.line path number fault) := by
  rcases readLines_cases _ (isMark_of_mem_beforeMark (lines text.toList)) with
    ⟨hflawless, -⟩ | ⟨number, fault, -, hread⟩
  · exact absurd hflawless h
  · exact ⟨number, fault, fault_of_readLines_error path hread⟩

/-- **A text without a bad line lacks the mark, or it is read.** -/
theorem ofText_of_flawless (path : Path) {text : String}
    (h : Flawless (beforeMark (lines text.toList))) :
    (ofText path text = .error (.missingTemplate path) ↔
        ∀ line ∈ lines text.toList, trim line ≠ mark.toList) ∧
      ((∃ s, ofText path text = .ok s) ↔
        ∃ line ∈ lines text.toList, trim line = mark.toList) := by
  rcases readLines_cases _ (isMark_of_mem_beforeMark (lines text.toList)) with
    ⟨-, known, hread⟩ | ⟨number, fault, hfirst, -⟩
  · rcases cases_of_readLines_ok path hread with ⟨hmissing, hno⟩ | ⟨⟨s, hs⟩, hmark⟩
    · rw [hmissing]
      refine ⟨iff_of_true rfl hno, iff_of_false ?_ ?_⟩
      · rintro ⟨s, hs⟩
        cases hs
      · rintro ⟨line, hline, htrim⟩
        exact hno line hline htrim
    · rw [hs]
      refine ⟨iff_of_false ?_ ?_, iff_of_true ⟨s, rfl⟩ hmark⟩
      · intro hmissing
        cases hmissing
      · intro hno
        obtain ⟨line, hline, htrim⟩ := hmark
        exact hno line hline htrim
  · exact absurd h hfirst.not_flawless

/-- **What comes of a text.**  It fails with a line if and only if this is the first bad line
before the mark, with the first of four faults that the line has, and it does fail so if there
is a bad line.  If there is none, the mark is missing or the text is read as a source,
according to whether it has the mark.  No line is ever cut within a character. -/
theorem outcome_ofText (path : Path) (text : String) :
    (∀ number fault, ofText path text = .error (.line path number fault) ↔
      FirstWrong (beforeMark (lines text.toList)) number fault) ∧
    (¬ Flawless (beforeMark (lines text.toList)) →
      ∃ number fault, ofText path text = .error (.line path number fault)) ∧
    (Flawless (beforeMark (lines text.toList)) →
      (ofText path text = .error (.missingTemplate path) ↔
        ∀ line ∈ lines text.toList, trim line ≠ mark.toList) ∧
      ((∃ s, ofText path text = .ok s) ↔
        ∃ line ∈ lines text.toList, trim line = mark.toList)) ∧
    ∀ line ∈ lines text.toList, ∀ d left right, directive? line = some d →
      splitFirst? '=' line = some (left, right) →
        fromByte? (byteLength d.word.toList) left = some (left.drop d.word.length) := by
  refine ⟨ofText_eq_line_iff path text, exists_line_of_not_flawless path,
    ofText_of_flawless path, ?_⟩
  intro line _ d left right hdirective hsplit
  have hd := (directive?_eq_some_iff line d).mp hdirective
  obtain ⟨hline, -⟩ := (splitFirst?_eq_some_iff line).mp hsplit
  obtain ⟨between, behind, hcut⟩ := exists_cut hd (by rw [hline]; simp)
  exact fromByte?_of_cut hcut hsplit

/-- A header that declares a name twice, and has a worse line behind. -/
def twice : String := "VAR a = 1\nSVAR a = 2\nVAR b\nBEGIN_TEMPLATE\n"

/-- Its second line is the one that is told.  A header without a bad line and without the mark
lacks the mark. -/
theorem outcome_twice :
    FirstWrong (beforeMark (lines twice.toList)) 2 (.duplicate "a" 1) ∧
      ¬ Flawless (beforeMark (lines twice.toList)) ∧
      (∃ number fault, ofText ⟨"demo.crankgen"⟩ twice =
        .error (.line ⟨"demo.crankgen"⟩ number fault)) ∧
      Flawless (beforeMark (lines "VAR a = 1\n".toList)) ∧
      (∀ line ∈ lines "VAR a = 1\n".toList, trim line ≠ mark.toList) ∧
      fromByte? 4 "SVAR a ".toList = some " a ".toList := by
  obtain ⟨hline, hfails, -, hcut⟩ := outcome_ofText ⟨"demo.crankgen"⟩ twice
  obtain ⟨-, hfails', hmark, -⟩ := outcome_ofText ⟨"demo.crankgen"⟩ "VAR a = 1\n"
  have hfirst := (hline 2 (.duplicate "a" 1)).mp rfl
  have hmissing : ofText ⟨"demo.crankgen"⟩ "VAR a = 1\n" =
      .error (.missingTemplate ⟨"demo.crankgen"⟩) := rfl
  have hflawless : Flawless (beforeMark (lines "VAR a = 1\n".toList)) := by
    by_contra hflawed
    obtain ⟨number, fault, hfault⟩ := hfails' hflawed
    rw [hmissing] at hfault
    cases hfault
  refine ⟨hfirst, hfirst.not_flawless, hfails hfirst.not_flawless, hflawless,
    (hmark hflawless).1.mp hmissing, ?_⟩
  exact hcut "SVAR a = 2\n".toList (by decide) (.domain .quoted) "SVAR a ".toList " 2\n".toList
    rfl rfl

end Fanout.Source
