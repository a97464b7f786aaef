/-
  Fanout.Proofs.Source.Written
  ────────────────────────────
  **A source is read as it is written.**

  A header is written line by line: declarations, each with a name and what
  stands behind its equals sign, and notes among them.  Texts that cannot be
  written are not there to begin with: an item of a list has no comma, no
  phrase has blanks at its ends, and a note is neither a directive nor the
  mark.

    • `HeaderLine`, `written` — headers, and how they are written,
    • `HeaderLine.declared?`, `recorded` — what their lines declare,
    • `readLine_line` — one line is read as it is written,
    • `readLines_map_line` — and so is a run of them,
    • `ofText_written` — a source with its template.
-/
import Fanout.Proofs.Source.Lines
import Fanout.Proofs.Template.Placeholder

namespace Fanout.Source

open Fanout.Text Fanout.Expr Fanout.Template

/-! ## §1. What can be written. -/

/-- A name. -/
structure Name where
  /-- The name. -/
  text : String
  /-- It is one. -/
  isName : Expr.isName text.toList = true

/-- A text on one line, without blanks at its ends. -/
structure Phrase where
  /-- The text. -/
  text : String
  /-- There are no blanks at its ends. -/
  trim_eq : trim text.toList = text.toList
  /-- It is on one line. -/
  oneLine : '\n' ∉ text.toList

/-- A phrase without commas. -/
structure Item extends Phrase where
  /-- It has no commas. -/
  noComma : ',' ∉ text.toList

/-- A line of a header before the mark. -/
inductive HeaderLine where
  /-- The declaration of a variable with a list of values. -/
  | domain (kind : VariableKind) (name : Name) (items : List Item) (hitems : items ≠ [])
  /-- The declaration of a derived name. -/
  | derived (name : Name) (expression : Phrase)
  /-- A line that declares nothing. -/
  | note (note : Note)

/-- A line of a header as it is written. -/
def HeaderLine.text : HeaderLine → String
  | domain kind name items _ =>
    kind.word ++ " " ++ name.text ++ " = " ++ ", ".intercalate (items.map fun i => i.text)
  | derived name expression =>
    Directive.derived.word ++ " " ++ name.text ++ " = " ++ expression.text
  | note n => n.text

/-- A header, the mark and a template as they are written. -/
def written (header : List HeaderLine) (template : String) : String :=
  String.join (header.map fun l => l.text ++ "\n") ++ (mark ++ "\n") ++ template

/-- The name that a line declares, if it declares one. -/
def HeaderLine.name? : HeaderLine → Option String
  | domain _ name _ _ => some name.text
  | derived name _ => some name.text
  | note _ => none

/-- What a line with a number declares, if it declares something. -/
def HeaderLine.declared? (number : Nat) : HeaderLine → Option Declaration
  | domain kind name items _ =>
    some (.domain ⟨name.text, kind, items.map fun i => readValue kind i.text, number⟩)
  | derived name expression => some (.derived ⟨name.text, expression.text, number⟩)
  | note _ => none

/-- What the lines of a header declare, the first of them with the number `first`. -/
def recorded (first : Nat) (header : List HeaderLine) : List Declaration :=
  (header.zipIdx first).filterMap fun l => l.1.declared? l.2

/-! ## §2. Names and lists. -/

/-- The characters of names are no blanks. -/
theorem isBlank_of_isNameChar {c : Char} (h : isNameChar c = true) : isBlank c = false := by
  -- The ranges of capital letters, small letters and digits, and the underscore.
  change (((decide (65 ≤ c.val ∧ c.val ≤ 90) || (decide (97 ≤ c.val) && decide (c.val ≤ 122))) ||
    (decide (48 ≤ c.val) && decide (c.val ≤ 57))) || c == '_') = true at h
  simp only [Bool.or_eq_true, Bool.and_eq_true, decide_eq_true_eq, beq_iff_eq,
    UInt32.le_iff_toNat_le] at h
  rcases h with h | rfl
  · change (((65 ≤ c.toNat ∧ c.toNat ≤ 90) ∨ (97 ≤ c.toNat ∧ c.toNat ≤ 122)) ∨
      (48 ≤ c.toNat ∧ c.toNat ≤ 57)) at h
    exact isBlank_of_printed (by omega) (by omega)
  · decide

theorem isBlank_of_mem_space : ∀ c ∈ [' '], isBlank c = true := by
  intro c hc
  rw [List.mem_singleton.mp hc]
  rfl

/-- Blanks around a name do not count. -/
theorem Name.trim_between (name : Name) : trim (' ' :: (name.text.toList ++ [' '])) =
    name.text.toList := by
  have hlead : trim ([' '] ++ (name.text.toList ++ [' '])) = trim (name.text.toList ++ [' ']) :=
    trim_append_left_of_blank isBlank_of_mem_space _
  refine hlead.trans ((trim_concat (by decide) _).trans (trim_of_not_blank fun c hc => ?_))
  exact isBlank_of_isNameChar (isNameChar_of_mem name.isName c hc)

theorem Name.not_mem (name : Name) {c : Char} (hc : isNameChar c = false) :
    c ∉ name.text.toList := by
  intro hmem
  rw [isNameChar_of_mem name.isName c hmem] at hc
  cases hc

/-- A blank before a phrase and a line feed behind it do not count. -/
theorem trim_spaced (cs : List Char) : trim (' ' :: (cs ++ ['\n'])) = trim cs := by
  have hlead : trim ([' '] ++ (cs ++ ['\n'])) = trim (cs ++ ['\n']) :=
    trim_append_left_of_blank isBlank_of_mem_space _
  exact hlead.trans (trim_append_lineFeed cs)

/-- Texts with a comma and a blank between them are texts behind blanks with a comma between
them. -/
theorem intercalate_spaced (items : List (List Char)) :
    items ≠ [] →
      ' ' :: [',', ' '].intercalate items = [','].intercalate (items.map (' ' :: ·)) := by
  induction items with
  | nil => intro h; exact absurd rfl h
  | cons item items ih =>
      intro _
      cases items with
      | nil => simp
      | cons next rest =>
          have hrest := ih (List.cons_ne_nil next rest)
          rw [List.map_cons, List.map_cons, List.intercalate_cons_cons, List.intercalate_cons_cons,
            ← List.map_cons, ← hrest]
          simp

theorem not_mem_intercalate {c : Char} {between : List Char} (hc : c ∉ between)
    (parts : List (List Char)) : (∀ part ∈ parts, c ∉ part) → c ∉ between.intercalate parts := by
  induction parts with
  | nil => intro _; exact List.not_mem_nil
  | cons part parts ih =>
      intro h
      have hpart := h part List.mem_cons_self
      have hparts := ih fun other hother => h other (List.mem_cons_of_mem part hother)
      cases parts with
      | nil => simpa using hpart
      | cons next rest =>
          rw [List.intercalate_cons_cons]
          simp [hpart, hc, hparts]

/-- **A list of items is read item by item**, whatever blanks and empty items are in it. -/
theorem map_trim_splitAt_items (items : List Item) (hitems : items ≠ []) :
    (splitAt ',' (trim ([',', ' '].intercalate (items.map fun i => i.text.toList)))).map trim =
      items.map fun i => i.text.toList := by
  have hne : (items.map fun i => i.text.toList) ≠ [] := by simpa using hitems
  have hspaced : (items.map fun i => i.text.toList).map (' ' :: ·) ≠ [] := by simpa using hne
  have hnone : ∀ part ∈ (items.map fun i => i.text.toList).map (' ' :: ·), ',' ∉ part := by
    intro part hpart
    obtain ⟨text, htext, rfl⟩ := List.mem_map.mp hpart
    obtain ⟨item, -, rfl⟩ := List.mem_map.mp htext
    simpa using item.noComma
  have hlead : trim ([' '] ++ [',', ' '].intercalate (items.map fun i => i.text.toList)) =
      trim ([',', ' '].intercalate (items.map fun i => i.text.toList)) :=
    trim_append_left_of_blank isBlank_of_mem_space _
  -- A blank before the first item makes every item one behind a blank.
  rw [← hlead, map_trim_splitAt_trim (by decide), List.singleton_append, intercalate_spaced _ hne,
    splitAt_intercalate _ hspaced hnone, List.map_map, List.map_map]
  refine List.map_congr_left fun item _ => ?_
  show trim ([' '] ++ item.text.toList) = item.text.toList
  rw [trim_append_left_of_blank isBlank_of_mem_space, item.trim_eq]

/-! ## §3. One line. -/

/-- A declaration on a line. -/
def declarationText (d : Directive) (name : Name) (value : List Char) : List Char :=
  d.word.toList ++ ' ' :: (name.text.toList ++ ' ' :: '=' :: ' ' :: value)

theorem isDirective_declarationText (d : Directive) (name : Name) (value : List Char) :
    IsDirective d (declarationText d name value ++ ['\n']) :=
  ⟨' ', _, List.append_assoc _ _ _, .inl (by decide)⟩

theorem cut_declarationText (d : Directive) (name : Name) (value : List Char) :
    Cut d (declarationText d name value ++ ['\n']) (' ' :: (name.text.toList ++ [' ']))
      (' ' :: (value ++ ['\n'])) := by
  constructor
  · unfold declarationText
    simp
  · have hname : '=' ∉ name.text.toList := name.not_mem (by decide)
    simp [hname]

theorem lineFeed_not_mem_declarationText (d : Directive) (name : Name) {value : List Char}
    (h : '\n' ∉ value) : '\n' ∉ declarationText d name value := by
  have hname : '\n' ∉ name.text.toList := name.not_mem (by decide)
  have hword : '\n' ∉ d.word.toList := by
    cases d with
    | derived => decide
    | domain kind => cases kind <;> decide
  unfold declarationText
  simp [hname, hword, h]

/-- **A declaration on a line is read as long as its name is new.** -/
theorem readLine_declarationText (d : Directive) (name : Name) (value : List Char)
    {known : List Declaration} (hnew : name.text ∉ known.map Declaration.name) (number : Nat) :
    readLine number known (declarationText d name value ++ ['\n']) =
      .ok (known ++ [declare d name.text (trim value) number]) := by
  have hcut := cut_declarationText d name value
  have hname : isName (trim (' ' :: (name.text.toList ++ [' ']))) = true := by
    rw [name.trim_between, name.isName]
  rw [readLine, (directive?_eq_some_iff _ d).mpr (isDirective_declarationText d name value)]
  dsimp only
  rw [readDirective_of_isName hcut hname, name.trim_between, String.ofList_toList,
    lineOf?_of_not_mem hnew, trim_spaced]

theorem declare_domain (kind : VariableKind) (name : String) (items : List Item)
    (hitems : items ≠ []) (number : Nat) :
    declare (.domain kind) name
        (trim ([',', ' '].intercalate (items.map fun i => i.text.toList))) number =
      .domain ⟨name, kind, items.map fun i => readValue kind i.text, number⟩ := by
  have hvalues := congrArg (List.map fun item => readValue kind (String.ofList item))
    (map_trim_splitAt_items items hitems)
  rw [List.map_map, List.map_map] at hvalues
  simp only [declare, List.map_map]
  refine congrArg (fun values => Declaration.domain ⟨name, kind, values, number⟩) (hvalues.trans ?_)
  exact List.map_congr_left fun i _ => congrArg (readValue kind) String.ofList_toList

theorem HeaderLine.toList_text_domain (kind : VariableKind) (name : Name) (items : List Item)
    (hitems : items ≠ []) :
    (HeaderLine.domain kind name items hitems).text.toList =
      declarationText (.domain kind) name
        ([',', ' '].intercalate (items.map fun i => i.text.toList)) := by
  simp [HeaderLine.text, declarationText, String.toList_intercalate, Directive.word, List.map_map,
    Function.comp_def]

theorem HeaderLine.toList_text_derived (name : Name) (expression : Phrase) :
    (HeaderLine.derived name expression).text.toList =
      declarationText .derived name expression.text.toList := by
  simp [HeaderLine.text, declarationText]

/-- **A line of a header is read as it is written.** -/
theorem readLine_line (l : HeaderLine) {known : List Declaration}
    (hnew : ∀ name, l.name? = some name → name ∉ known.map Declaration.name) (number : Nat) :
    readLine number known (l.text.toList ++ ['\n']) =
      .ok (known ++ (l.declared? number).toList) := by
  cases l with
  | domain kind name items hitems =>
      rw [HeaderLine.toList_text_domain, readLine_declarationText _ _ _ (hnew _ rfl),
        declare_domain kind name.text items hitems]
      rfl
  | derived name expression =>
      rw [HeaderLine.toList_text_derived, readLine_declarationText _ _ _ (hnew _ rfl),
        expression.trim_eq, declare, String.ofList_toList]
      rfl
  | note n =>
      have hnone : directive? ((HeaderLine.note n).text.toList ++ ['\n']) = none :=
        (directive?_eq_none_iff _).mpr n.notDirective
      rw [readLine, hnone]
      exact congrArg Except.ok (List.append_nil known).symm

/-! ## §4. Headers. -/

theorem recorded_cons (first : Nat) (l : HeaderLine) (header : List HeaderLine) :
    recorded first (l :: header) = (l.declared? first).toList ++ recorded (first + 1) header := by
  cases l <;> rfl

theorem names_cons (l : HeaderLine) (header : List HeaderLine) :
    (l :: header).filterMap HeaderLine.name? =
      l.name?.toList ++ header.filterMap HeaderLine.name? := by
  cases l <;> rfl

theorem map_name_declared? (l : HeaderLine) (number : Nat) :
    (l.declared? number).toList.map Declaration.name = l.name?.toList := by
  cases l <;> rfl

/-- **A run of lines is read as it is written** as long as no name comes twice. -/
theorem readLines_map_line (header : List HeaderLine) :
    ∀ (number : Nat) (known : List Declaration),
      (known.map Declaration.name ++ header.filterMap HeaderLine.name?).Nodup →
        readLines number known (header.map fun l => l.text.toList ++ ['\n']) =
          .ok (known ++ recorded number header) := by
  induction header with
  | nil =>
      intro number known _
      exact congrArg Except.ok (List.append_nil known).symm
  | cons l header ih =>
      intro number known hnodup
      rw [names_cons, ← List.append_assoc] at hnodup
      have hnew : ∀ name, l.name? = some name → name ∉ known.map Declaration.name := by
        intro name hname hmem
        have hboth := (List.nodup_append.mp hnodup).1
        exact (List.nodup_append.mp hboth).2.2 name hmem name (by simp [hname]) rfl
      rw [← map_name_declared? l number, ← List.map_append] at hnodup
      rw [List.map_cons, readLines_cons, readLine_line l hnew]
      show readLines (number + 1) (known ++ (l.declared? number).toList) _ = _
      rw [ih _ _ hnodup, recorded_cons, List.append_assoc]

/-- What is written of a line is one line. -/
theorem HeaderLine.lineFeed_not_mem (l : HeaderLine) : '\n' ∉ l.text.toList := by
  cases l with
  | domain kind name items hitems =>
      rw [HeaderLine.toList_text_domain]
      refine lineFeed_not_mem_declarationText _ name (not_mem_intercalate (by decide) _ ?_)
      intro part hpart
      obtain ⟨item, -, rfl⟩ := List.mem_map.mp hpart
      exact item.oneLine
  | derived name expression =>
      rw [HeaderLine.toList_text_derived]
      exact lineFeed_not_mem_declarationText _ name expression.oneLine
  | note n => exact n.oneLine

/-- What is written of a line is not the mark. -/
theorem HeaderLine.isMark_text (l : HeaderLine) : isMark (l.text.toList ++ ['\n']) = false := by
  -- A directive is not the mark, and a note is no mark to begin with.
  have hdirective : ∀ {line : List Char}, IsDirectiveLine line → isMark line = false := by
    intro line hline
    rw [← Bool.not_eq_true]
    exact fun hmark => not_isDirectiveLine_of_isMark hmark hline
  cases l with
  | domain kind name items hitems =>
      rw [HeaderLine.toList_text_domain]
      exact hdirective ⟨_, isDirective_declarationText _ name _⟩
  | derived name expression =>
      rw [HeaderLine.toList_text_derived]
      exact hdirective ⟨_, isDirective_declarationText _ name _⟩
  | note n => exact isMark_eq_false_iff.mpr n.notMark

/-- The lines of what is written are those of the header, the mark, and those of the
template. -/
theorem lines_written (header : List HeaderLine) (template : String) :
    lines (written header template).toList =
      (header.map fun l => l.text.toList ++ ['\n']) ++
        (mark.toList ++ ['\n']) :: lines template.toList := by
  have htext : (written header template).toList =
      (header.map fun l => l.text.toList).flatMap (· ++ ['\n']) ++
        (mark.toList ++ '\n' :: template.toList) := by
    simp [written, List.flatMap_map]
  have hbodies : ∀ body ∈ header.map fun l => l.text.toList, '\n' ∉ body := by
    intro body hbody
    obtain ⟨l, -, rfl⟩ := List.mem_map.mp hbody
    exact l.lineFeed_not_mem
  rw [htext, lines_flatMap _ _ hbodies, lines_append_cons _ _ (by decide), List.map_map]
  rfl

/-- **A source is read as it is written.**  A header whose names differ, the mark and any
template give back what the lines of the header declare, each on its own line and in order, and
the template. -/
theorem ofText_written (path : Path) (header : List HeaderLine) (template : String)
    (hnodup : (header.filterMap HeaderLine.name?).Nodup) :
    ofText path (written header template) =
      .ok ⟨path, recorded 1 header, template, header.length + 2⟩ := by
  have hmark : isMark (mark.toList ++ ['\n']) = true := by decide
  have hfront : ∀ line ∈ header.map fun l => l.text.toList ++ ['\n'], isMark line = false := by
    intro line hline
    obtain ⟨l, -, rfl⟩ := List.mem_map.mp hline
    exact l.isMark_text
  rw [ofText_of_mark path (lines_written header template) hfront hmark
    (readLines_map_line header 1 [] hnodup), flatten_lines, String.ofList_toList, List.length_map]
  rfl

/-- A header with empty items, an equals sign in an item and in an expression, and a note. -/
def demoHeader : List HeaderLine :=
  [.domain .typed ⟨"a", by decide⟩
      [⟨⟨"", by decide, by decide⟩, by decide⟩, ⟨⟨"x=1", by decide, by decide⟩, by decide⟩,
        ⟨⟨"", by decide, by decide⟩, by decide⟩] (by decide),
    .note ⟨"VARIANCE = 3", by decide, by decide, by decide⟩,
    .derived ⟨"b", by decide⟩ ⟨"a == 1", by decide, by decide⟩]

/-- It is read as it is written, before a template that looks like a header. -/
theorem ofText_written_demo :
    (demoHeader.filterMap HeaderLine.name?).Nodup ∧
      ofText ⟨"demo.crankgen"⟩
          "VAR a = , x=1, \nVARIANCE = 3\nLAMBDA b = a == 1\nBEGIN_TEMPLATE\nVAR a = 1\n" =
        .ok ⟨⟨"demo.crankgen"⟩,
          [.domain ⟨"a", .typed, [.str "", .str "x=1", .str ""], 1⟩, .derived ⟨"b", "a == 1", 3⟩],
          "VAR a = 1\n", 5⟩ := by
  have hnodup : (demoHeader.filterMap HeaderLine.name?).Nodup := by decide
  exact ⟨hnodup, ofText_written ⟨"demo.crankgen"⟩ demoHeader "VAR a = 1\n" hnodup⟩

end Fanout.Source
