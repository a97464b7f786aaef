/-
  Fanout.Proofs.Source.Record
  ───────────────────────────
  **What a source records of its text.**

  Reading goes from line to line up to the mark of the template.  What is
  declared at any point is what the directive lines up to there declare,
  each on its own line:

    • `Makes` — the line of a declaration, part by part,
    • `Records` — the declarations of the lines so far,
    • `Records.skip`, `Records.add` — one line more,
    • `records_of_readHeader` — all lines before the mark,
    • `represents_of_ofText` — a text and the source that it is read as.
-/
import Fanout.Proofs.Source.Header
import Fanout.Proofs.Text

namespace Fanout

/-- The directive that makes a declaration. -/
def Declaration.directive : Declaration → Source.Directive
  | .domain v => .domain v.kind
  | .derived _ => .derived

namespace Source

open Fanout.Text Fanout.Expr

/-! ## §1. Directive lines. -/

/-- A line that is a directive: it begins with the word of one, and a blank or an equals sign
follows. -/
def IsDirectiveLine (line : List Char) : Prop :=
  ∃ (d : Directive) (c : Char) (rest : List Char),
    line = d.word.toList ++ c :: rest ∧ (isBlank c = true ∨ c = '=')

theorem begins_iff (d : Directive) (line : List Char) :
    d.begins line = true ↔
      ∃ c rest, line = d.word.toList ++ c :: rest ∧ (isBlank c = true ∨ c = '=') := by
  unfold Directive.begins
  rw [Bool.and_eq_true, List.isPrefixOf_iff_prefix, ← String.length_toList]
  constructor
  · rintro ⟨⟨behind, rfl⟩, hnext⟩
    rw [List.drop_left] at hnext
    cases behind with
    | nil => cases hnext
    | cons c rest => exact ⟨c, rest, rfl, by simpa using hnext⟩
  · rintro ⟨c, rest, rfl, hc⟩
    rw [List.drop_left]
    exact ⟨List.prefix_append _ _, by simpa using hc⟩

theorem mem_all (d : Directive) : d ∈ Directive.all := by
  cases d with
  | derived => decide
  | domain kind => cases kind <;> decide

/-- A line is taken for a directive if and only if it is one. -/
theorem isSome_directive?_iff (line : List Char) :
    (directive? line).isSome = true ↔ IsDirectiveLine line := by
  unfold directive? IsDirectiveLine
  rw [List.find?_isSome]
  constructor
  · rintro ⟨d, -, hd⟩
    exact ⟨d, (begins_iff d line).mp hd⟩
  · rintro ⟨d, hd⟩
    exact ⟨d, mem_all d, (begins_iff d line).mpr hd⟩

/-- The words of directives begin with a letter that the mark does not begin with. -/
theorem exists_word (d : Directive) :
    ∃ c rest, d.word.toList = c :: rest ∧ isBlank c = false ∧ mark.toList.head? ≠ some c := by
  cases d with
  | derived => exact ⟨_, _, rfl, by decide, by decide⟩
  | domain kind =>
      cases kind with
      | typed => exact ⟨_, _, rfl, by decide, by decide⟩
      | quoted => exact ⟨_, _, rfl, by decide, by decide⟩

theorem isMark_iff (line : List Char) : isMark line = true ↔ trim line = mark.toList := by
  unfold isMark
  exact beq_iff_eq

/-- **The mark is no directive.** -/
theorem not_isDirectiveLine_of_isMark {line : List Char} (h : isMark line = true) :
    ¬ IsDirectiveLine line := by
  rintro ⟨d, c, rest, hline, -⟩
  obtain ⟨w, word, hword, hblank, hhead⟩ := exists_word d
  obtain ⟨lead, trail, hlead, -, htrim⟩ := exists_trim line
  rw [(isMark_iff line).mp h, hline, hword] at htrim
  -- The line begins with the word, so no blank comes before the mark, and the mark does not.
  cases lead with
  | nil =>
      refine hhead ?_
      have hfirst := congrArg List.head? htrim
      simpa [mark] using hfirst.symm
  | cons b lead =>
      obtain ⟨rfl, -⟩ : w = b ∧ _ := List.cons.inj htrim
      rw [hlead w List.mem_cons_self] at hblank
      cases hblank

/-! ## §2. The line of a declaration. -/

/-- The line of a declaration: the word of its directive, a blank, the name perhaps among more
blanks, and behind the first equals sign what is declared. -/
structure Makes (line between right : List Char) (d : Declaration) : Prop where
  /-- The line begins with the word. -/
  line_eq : line = d.directive.word.toList ++ (between ++ '=' :: right)
  /-- The equals sign is the first one of the line. -/
  noEquals : '=' ∉ d.directive.word.toList ++ between
  /-- A blank follows the word. -/
  blank : ∃ c rest, between = c :: rest ∧ isBlank c = true
  /-- The name stands before the equals sign. -/
  name : trim between = d.name.toList
  /-- The values of a variable stand between the commas. -/
  values : ∀ v, d = .domain v → v.values =
    (splitAt ',' (trim right)).map fun item => readValue v.kind (String.ofList (trim item))
  /-- The expression of a derived name is all that stands there. -/
  expression : ∀ e, d = .derived e → e.expression = String.ofList (trim right)

/-- **A variable has one value more than there are commas behind the equals sign.** -/
theorem Makes.length_values {line between right : List Char} {v : Variable}
    (h : Makes line between right (.domain v)) : v.values.length = right.count ',' + 1 := by
  rw [h.values v rfl, List.length_map, length_splitAt, count_trim (by decide)]

theorem equals_not_mem_word (d : Directive) : '=' ∉ d.word.toList := by
  cases d with
  | derived => decide
  | domain kind => cases kind <;> decide

/-- A directive line cut at its first equals sign has the word on the left. -/
theorem exists_between {d : Directive} {line left right : List Char}
    (hbegins : d.begins line = true) (hcut : splitFirst? '=' line = some (left, right)) :
    ∃ between, left = d.word.toList ++ between ∧
      ∀ c rest, between = c :: rest → isBlank c = true := by
  obtain ⟨c, rest, hline, hc⟩ := (begins_iff d line).mp hbegins
  obtain ⟨hsides, hleft⟩ := (splitFirst?_eq_some_iff line).mp hcut
  have heq := hline.symm.trans hsides
  rcases List.append_eq_append_iff.mp heq with ⟨between, rfl, hright⟩ | ⟨more, hword, hmore⟩
  · refine ⟨between, rfl, fun b behind hb => ?_⟩
    rw [hb, List.cons_append, List.cons.injEq] at hright
    rcases hc with hc | hc
    · rw [← hright.1]
      exact hc
    · -- The first equals sign stands behind the left side.
      refine absurd (List.mem_append_right d.word.toList ?_) hleft
      rw [hb, ← hright.1, hc]
      exact List.mem_cons_self
  · cases more with
    | nil =>
        rw [List.append_nil] at hword
        exact ⟨[], by rw [hword, List.append_nil], fun _ _ h => by cases h⟩
    | cons e more =>
        -- The word would hold the equals sign.
        obtain ⟨rfl, -⟩ := List.cons.inj hmore
        refine absurd ?_ (equals_not_mem_word d)
        rw [hword]
        exact List.mem_append_right left List.mem_cons_self

/-- What is declared is made by the directive. -/
theorem directive_declare (d : Directive) (name : String) (right : List Char) (number : Nat) :
    (declare d name right number).directive = d := by
  cases d <;> rfl

theorem line_declare (d : Directive) (name : String) (right : List Char) (number : Nat) :
    (declare d name right number).line = number := by
  cases d <;> rfl

/-- **A directive line that is read makes its declaration.** -/
theorem makes_of_readDirective {declared : List Declaration} {d : Directive} {line : List Char}
    {number : Nat} {decl : Declaration} (hbegins : d.begins line = true)
    (h : readDirective declared d line number = .ok decl) :
    decl.line = number ∧ ∃ between right, Makes line between right decl := by
  unfold readDirective at h
  split at h
  · cases h
  · rename_i left right hcut
    obtain ⟨between, rfl, hblank⟩ := exists_between hbegins hcut
    obtain ⟨hsides, hfirst⟩ := (splitFirst?_eq_some_iff line).mp hcut
    have hdrop : (d.word.toList ++ between).drop d.word.length = between := by
      rw [← String.length_toList, List.drop_left]
    dsimp only at h
    rw [hdrop] at h
    split at h
    · cases h
    · rename_i hname
      split at h
      · cases h
      · split at h
        · cases h
        · obtain rfl := Except.ok.inj h
          refine ⟨line_declare d _ _ number, between, right, ?_⟩
          refine ⟨?_, ?_, ?_, ?_, fun v hv => values_of_declare hv, fun e he => ?_⟩
          · rw [directive_declare, ← List.append_assoc]
            exact hsides
          · rw [directive_declare]
            exact hfirst
          · cases between with
            | nil => exact absurd rfl hname
            | cons c rest => exact ⟨c, rest, rfl, hblank c rest rfl⟩
          · rw [name_declare, String.toList_ofList]
          · cases d with
            | domain kind => cases he
            | derived =>
                cases he
                rfl

/-! ## §3. The lines so far. -/

/-- The declarations of the lines of a header so far: each stands on the line that it records,
the lines of later ones are greater, and every directive line has one. -/
structure Records (front : List (List Char)) (ds : List Declaration) : Prop where
  /-- A declaration stands on its line. -/
  made : ∀ d ∈ ds, ∃ i line between right,
    d.line = i + 1 ∧ front[i]? = some line ∧ Makes line between right d
  /-- The lines grow. -/
  increasing : (ds.map Declaration.line).Pairwise (· < ·)
  /-- Every directive line is recorded. -/
  recorded : ∀ i line, front[i]? = some line → IsDirectiveLine line →
    i + 1 ∈ ds.map Declaration.line

theorem records_nil : Records [] [] :=
  ⟨fun _ h => absurd h List.not_mem_nil, List.Pairwise.nil, fun _ _ h => by cases h⟩

namespace Records

variable {front : List (List Char)} {ds : List Declaration}

/-- Declarations stand on lines that have been read. -/
theorem line_le (h : Records front ds) {d : Declaration} (hd : d ∈ ds) : d.line ≤ front.length := by
  obtain ⟨i, line, between, right, hline, hfront, -⟩ := h.made d hd
  have hlt := (List.getElem?_eq_some_iff.mp hfront).1
  omega

/-- A declaration stays on its line when lines follow. -/
theorem made_append (h : Records front ds) (more : List (List Char)) :
    ∀ d ∈ ds, ∃ i line between right,
      d.line = i + 1 ∧ (front ++ more)[i]? = some line ∧ Makes line between right d := by
  intro d hd
  obtain ⟨i, line, between, right, hline, hfront, hmakes⟩ := h.made d hd
  refine ⟨i, line, between, right, hline, ?_, hmakes⟩
  rw [List.getElem?_append_left (List.getElem?_eq_some_iff.mp hfront).1]
  exact hfront

/-- A line of the lines so far and one more is one of them or the last. -/
theorem cases_getElem? {line : List Char} {i : Nat} {found : List Char}
    (h : (front ++ [line])[i]? = some found) :
    front[i]? = some found ∨ i = front.length ∧ line = found := by
  by_cases hi : i < front.length
  · rw [List.getElem?_append_left hi] at h
    exact .inl h
  · rw [List.getElem?_append_right (Nat.not_lt.mp hi)] at h
    have hlt := (List.getElem?_eq_some_iff.mp h).1
    rw [List.length_singleton] at hlt
    obtain rfl : i = front.length := by omega
    rw [Nat.sub_self] at h
    exact .inr ⟨rfl, by simpa using h⟩

/-- **A line that is no directive declares nothing.** -/
theorem skip (h : Records front ds) {line : List Char} (hline : ¬ IsDirectiveLine line) :
    Records (front ++ [line]) ds := by
  refine ⟨h.made_append [line], h.increasing, fun i found hfound hdirective => ?_⟩
  rcases cases_getElem? hfound with hfront | ⟨-, rfl⟩
  · exact h.recorded i found hfront hdirective
  · exact absurd hdirective hline

/-- **A directive line declares what it makes.** -/
theorem add (h : Records front ds) {line between right : List Char} {d : Declaration}
    (hnumber : d.line = front.length + 1) (hmakes : Makes line between right d) :
    Records (front ++ [line]) (ds ++ [d]) := by
  refine ⟨?_, ?_, fun i found hfound hdirective => ?_⟩
  · intro e he
    rcases List.mem_append.mp he with he | he
    · exact h.made_append [line] e he
    · obtain rfl := List.mem_singleton.mp he
      exact ⟨front.length, line, between, right, hnumber, by simp, hmakes⟩
  · rw [List.map_append, List.pairwise_append]
    refine ⟨h.increasing, List.pairwise_singleton _ _, fun n hn m hm => ?_⟩
    obtain ⟨e, he, rfl⟩ := List.mem_map.mp hn
    obtain rfl : m = d.line := by simpa using hm
    have hle := h.line_le he
    omega
  · rw [List.map_append, List.mem_append]
    rcases cases_getElem? hfound with hfront | ⟨rfl, -⟩
    · exact .inl (h.recorded i found hfront hdirective)
    · exact .inr (by simp [hnumber])

/-- Every directive line is recorded exactly once. -/
theorem count_line (h : Records front ds) {i : Nat} {line : List Char}
    (hline : front[i]? = some line) (hdirective : IsDirectiveLine line) :
    (ds.map Declaration.line).count (i + 1) = 1 :=
  List.count_eq_one_of_mem (h.increasing.imp Nat.ne_of_lt) (h.recorded i line hline hdirective)

end Records

/-! ## §4. Headers. -/

/-- **A header that is read records the lines before the mark.** -/
theorem records_of_readHeader (rest : List (List Char)) :
    ∀ {front : List (List Char)} {declared : List Declaration} {header : Header},
      Records front declared → readHeader (front.length + 1) declared rest = .ok header →
        ∃ more last, rest = more ++ last :: header.template ∧
          (∀ line ∈ more, isMark line = false) ∧ isMark last = true ∧
          header.templateLine = (front ++ more).length + 2 ∧
          Records (front ++ more) header.declarations := by
  -- The lines so far and what they declare; the line of the mark ends it.
  induction rest with
  | nil => intro front declared header _ h; cases h
  | cons line rest ih =>
      intro front declared header hrecords h
      -- Once a line is behind us, the rest is read from the next one on.
      have hstep : ∀ {ds : List Declaration}, isMark line = false →
          Records (front ++ [line]) ds →
          readHeader (front.length + 1 + 1) ds rest = .ok header →
          ∃ more last, line :: rest = more ++ last :: header.template ∧
            (∀ line ∈ more, isMark line = false) ∧ isMark last = true ∧
            header.templateLine = (front ++ more).length + 2 ∧
            Records (front ++ more) header.declarations := by
        intro ds hmark hnext hread
        have hlength : (front ++ [line]).length + 1 = front.length + 1 + 1 := by simp
        rw [← hlength] at hread
        obtain ⟨more, last, hrest, hmore, hlast, htemplate, hall⟩ := ih hnext hread
        rw [List.append_assoc, List.singleton_append] at htemplate hall
        refine ⟨line :: more, last, by rw [hrest, List.cons_append], ?_, hlast, htemplate, hall⟩
        intro other hother
        rcases List.mem_cons.mp hother with rfl | hother
        · exact hmark
        · exact hmore other hother
      rw [readHeader] at h
      split at h
      · rename_i hmark
        cases h
        refine ⟨[], line, rfl, fun _ hmem => absurd hmem List.not_mem_nil, hmark, ?_, ?_⟩
        · rw [List.append_nil]
        · rw [List.append_nil]
          exact hrecords
      · rename_i hmark
        have hmark : isMark line = false := by simpa using hmark
        split at h
        · rename_i hnone
          refine hstep hmark (hrecords.skip ?_) h
          rw [← isSome_directive?_iff, hnone]
          simp
        · rename_i d hd
          split at h
          · cases h
          · rename_i decl hdecl
            have hbegins : d.begins line = true := by
              unfold directive? at hd
              simpa using List.find?_some hd
            obtain ⟨hnumber, between, right, hmakes⟩ := makes_of_readDirective hbegins hdecl
            exact hstep hmark (hrecords.add hnumber hmakes) h

/-! ## §5. Sources. -/

/-- **A text that is read as a source is cut behind its mark**, and the lines before the mark are
recorded. -/
theorem exists_cut_of_ofText {path : Path} {text : String} {s : Source}
    (h : ofText path text = .ok s) :
    ∃ front last, lines text.toList = (front ++ [last]) ++ lines s.template.toList ∧
      (∀ line ∈ front, isMark line = false) ∧ isMark last = true ∧
      s.templateLine = (front ++ [last]).length + 1 ∧ Records front s.declarations := by
  unfold ofText at h
  split at h
  · cases h
  · rename_i found hfound
    obtain ⟨front, last, hrest, hfront, hlast, htemplate, hrecords⟩ :=
      records_of_readHeader _ records_nil hfound
    obtain rfl := Except.ok.inj h
    rw [List.nil_append] at htemplate hrecords
    have hcut : lines text.toList = (front ++ [last]) ++ found.template := by
      rw [hrest, List.append_assoc, List.singleton_append]
    refine ⟨front, last, ?_, hfront, hlast, ?_, hrecords⟩
    · rw [String.toList_ofList, (lines_of_append (front ++ [last]) found.template hcut).2]
      exact hcut
    · rw [List.length_append]
      exact htemplate

/-- A text with its header, and the source that it is read as. -/
structure Represents (text : String) (header : List Char) (s : Source) : Prop where
  /-- The text is the header and the template. -/
  text_eq : text.toList = header ++ s.template.toList
  /-- The template begins with a line of its own. -/
  lines_eq : lines text.toList = lines header ++ lines s.template.toList
  /-- The line at which it begins is the one behind the lines of the header. -/
  templateLine_eq : s.templateLine = (lines header).length + 1
  /-- The last line of the header is its only mark. -/
  onlyMark : ∃ front last, lines header = front ++ [last] ∧ trim last = mark.toList ∧
    ∀ line ∈ front, trim line ≠ mark.toList
  /-- Names are names. -/
  isName : ∀ d ∈ s.declarations, Expr.isName d.name.toList = true
  /-- No name is declared twice. -/
  nodup : (s.declarations.map Declaration.name).Nodup
  /-- Every declaration stands on the line that it records, before the mark. -/
  made : ∀ d ∈ s.declarations, d.line < (lines header).length ∧
    ∃ i line between right, d.line = i + 1 ∧ (lines header)[i]? = some line ∧
      Makes line between right d ∧ ∀ v, d = .domain v → v.values.length = right.count ',' + 1
  /-- The lines of declarations grow, -/
  increasing : (s.declarations.map Declaration.line).Pairwise (· < ·)
  /-- those of variables -/
  increasingVars : (s.vars.map fun v => v.line).Pairwise (· < ·)
  /-- and those of derived names. -/
  increasingDerived : (s.derived.map fun d => d.line).Pairwise (· < ·)
  /-- Every directive line is recorded exactly once. -/
  once : ∀ i line, (lines header)[i]? = some line → IsDirectiveLine line →
    (s.declarations.map Declaration.line).count (i + 1) = 1

/-- **A text that is read as a source is represented by it.**  It is cut behind the only line
that is the mark.  The names of the source are names and differ from each other; each of its
declarations records the line on which it stands, a variable with one value more than there
are commas behind the first equals sign, and every directive line before the mark is recorded
exactly once, in order. -/
theorem represents_of_ofText {path : Path} {text : String} {s : Source}
    (h : ofText path text = .ok s) : s.path = path ∧ ∃ header, Represents text header s := by
  obtain ⟨hpath, hwell⟩ := of_ofText h
  obtain ⟨front, last, hcut, hfront, hlast, htemplate, hrecords⟩ := exists_cut_of_ofText h
  -- The lines of the header are those before the template.
  have hheader := (lines_of_append (front ++ [last]) (lines s.template.toList) hcut).1
  refine ⟨hpath, (front ++ [last]).flatten, ?_, ?_, ?_, ?_, hwell.isName, hwell.nodup, ?_,
    hrecords.increasing, ?_, ?_, ?_⟩
  · rw [← flatten_lines text.toList, hcut, List.flatten_append, flatten_lines]
  · rw [hheader]
    exact hcut
  · rw [hheader]
    exact htemplate
  · refine ⟨front, last, hheader, (isMark_iff last).mp hlast, fun line hline htrim => ?_⟩
    have hmark := hfront line hline
    rw [(isMark_iff line).mpr htrim] at hmark
    cases hmark
  · intro d hd
    obtain ⟨i, line, between, right, hnumber, hline, hmakes⟩ := hrecords.made_append [last] d hd
    have hle := hrecords.line_le hd
    rw [hheader, List.length_append, List.length_singleton]
    refine ⟨Nat.lt_succ_of_le hle, i, line, between, right, hnumber, hline, hmakes, ?_⟩
    rintro v rfl
    exact hmakes.length_values
  · exact hrecords.increasing.sublist (sublist_vars Declaration.line _)
  · exact hrecords.increasing.sublist (sublist_derived Declaration.line _)
  · intro i line hline hdirective
    rw [hheader] at hline
    -- The mark is no directive, so the line is one of those before it.
    refine (hrecords.skip ?_).count_line hline hdirective
    exact not_isDirectiveLine_of_isMark hlast

/-- A header with a note between its declarations and blanks around its mark. -/
def noted : Source :=
  ⟨⟨"demo.crankgen"⟩,
    [.domain ⟨"a", .typed, [.int 1, .str "x"], 1⟩, .derived ⟨"b", "a == 1", 3⟩], "$b\n", 5⟩

/-- It is represented by the source with the lines of its declarations. -/
theorem represents_noted :
    ofText ⟨"demo.crankgen"⟩ "VAR a = 1, x\nnote\nLAMBDA b = a == 1\n BEGIN_TEMPLATE \n$b\n" =
        .ok noted ∧
      ∃ header,
        Represents "VAR a = 1, x\nnote\nLAMBDA b = a == 1\n BEGIN_TEMPLATE \n$b\n" header
          noted := by
  have htext : ofText ⟨"demo.crankgen"⟩
      "VAR a = 1, x\nnote\nLAMBDA b = a == 1\n BEGIN_TEMPLATE \n$b\n" = .ok noted := rfl
  exact ⟨htext, (represents_of_ofText htext).2⟩

end Source

end Fanout
