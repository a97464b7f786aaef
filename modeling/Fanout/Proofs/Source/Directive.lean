/-
  Fanout.Proofs.Source.Directive
  ──────────────────────────────
  **A directive line has one word and one name.**

  The words of the directives begin with different letters and have no
  equals sign, so a line is at most one directive, and it is cut at its
  first equals sign in only one way.  What is read of it follows from the
  text between its word and this equals sign alone:

    • `directive?_eq_some_iff` — the directive that a line is,
    • `Cut`, `exists_cut` — a line cut at its first equals sign,
    • `Names.unique` — a line names one name,
    • `readDirective_of_not_mem`, `readDirective_of_cut`,
      `readDirective_of_isName` — what is read,
    • `fromByte?_of_cut` — behind the word a character begins.
-/
import Fanout.Proofs.Source.Record

namespace Fanout.Source

open Fanout.Text Fanout.Expr

/-! ## §1. The word. -/

/-- A line is a directive: it begins with the word, and a blank or an equals sign follows. -/
def IsDirective (d : Directive) (line : List Char) : Prop :=
  ∃ c rest, line = d.word.toList ++ c :: rest ∧ (isBlank c = true ∨ c = '=')

/-- No two words begin with the same letter. -/
theorem word_injective {d e : Directive} (h : d.word.toList.head? = e.word.toList.head?) :
    d = e := by
  have hall : ∀ a ∈ Directive.all, ∀ b ∈ Directive.all,
      a.word.toList.head? = b.word.toList.head? → a = b := by decide
  exact hall d (mem_all d) e (mem_all e) h

theorem IsDirective.head?_eq {d : Directive} {line : List Char} (h : IsDirective d line) :
    line.head? = d.word.toList.head? := by
  obtain ⟨c, rest, rfl, -⟩ := h
  obtain ⟨w, word, hword, -, -⟩ := exists_word d
  rw [hword]
  rfl

/-- **A line is no more than one directive.** -/
theorem IsDirective.unique {d e : Directive} {line : List Char} (hd : IsDirective d line)
    (he : IsDirective e line) : d = e :=
  word_injective (hd.head?_eq.symm.trans he.head?_eq)

theorem directive?_eq_none_iff (line : List Char) :
    directive? line = none ↔ ¬ IsDirectiveLine line := by
  rw [← isSome_directive?_iff, Bool.not_eq_true, Option.isSome_eq_false_iff,
    Option.isNone_iff_eq_none]

/-- **A line is read as the directive that it is.** -/
theorem directive?_eq_some_iff (line : List Char) (d : Directive) :
    directive? line = some d ↔ IsDirective d line := by
  have hsound : ∀ e, directive? line = some e → IsDirective e line := by
    intro e he
    have hbegins : e.begins line = true := by
      unfold directive? at he
      simpa using List.find?_some he
    exact (begins_iff e line).mp hbegins
  constructor
  · exact hsound d
  · intro hd
    have hsome : (directive? line).isSome = true := (isSome_directive?_iff line).mpr ⟨d, hd⟩
    obtain ⟨e, he⟩ := Option.isSome_iff_exists.mp hsome
    rw [he, (hsound e he).unique hd]

instance (line : List Char) : Decidable (IsDirectiveLine line) :=
  decidable_of_iff _ (isSome_directive?_iff line)

/-- A line that declares nothing: neither a directive nor the mark. -/
structure Note where
  /-- The line without the line feed that ends it. -/
  text : String
  /-- It is one line. -/
  oneLine : '\n' ∉ text.toList
  /-- It is no directive. -/
  notDirective : ¬ IsDirectiveLine (text.toList ++ ['\n'])
  /-- It is not the mark. -/
  notMark : trim (text.toList ++ ['\n']) ≠ mark.toList

/-! ## §2. The first equals sign. -/

/-- A directive line cut at its first equals sign. -/
structure Cut (d : Directive) (line between right : List Char) : Prop where
  /-- The line is the word, what stands before the equals sign, and what stands behind it. -/
  line_eq : line = d.word.toList ++ (between ++ '=' :: right)
  /-- There is no equals sign before it. -/
  noEquals : '=' ∉ between

/-- What a line names: the text between the word of its directive and its first equals sign,
without the blanks around it. -/
def Names (d : Directive) (line name : List Char) : Prop :=
  ∃ between right, Cut d line between right ∧ trim between = name

variable {d : Directive} {line between right : List Char}

theorem Cut.splitFirst?_eq (h : Cut d line between right) :
    splitFirst? '=' line = some (d.word.toList ++ between, right) := by
  refine (splitFirst?_eq_some_iff line).mpr ⟨?_, fun hmem => ?_⟩
  · rw [h.line_eq, List.append_assoc]
  · rcases List.mem_append.mp hmem with hmem | hmem
    · exact equals_not_mem_word d hmem
    · exact h.noEquals hmem

/-- **A directive line with an equals sign is cut at the first one.** -/
theorem exists_cut (hd : IsDirective d line) (hmem : '=' ∈ line) :
    ∃ between right, Cut d line between right := by
  obtain ⟨left, right, hline, hleft⟩ := List.eq_append_cons_of_mem hmem
  have hcut := (splitFirst?_eq_some_iff line).mpr ⟨hline, hleft⟩
  obtain ⟨between, rfl, -⟩ := exists_between ((begins_iff d line).mpr hd) hcut
  refine ⟨between, right, ?_, fun h => hleft (List.mem_append_right _ h)⟩
  rw [hline, List.append_assoc]

theorem Cut.unique {between' right' : List Char} (h : Cut d line between right)
    (h' : Cut d line between' right') : between = between' ∧ right = right' := by
  have heq := h.splitFirst?_eq.symm.trans h'.splitFirst?_eq
  rw [Option.some.injEq, Prod.mk.injEq] at heq
  exact ⟨List.append_cancel_left heq.1, heq.2⟩

/-- **A line names one name.** -/
theorem Names.unique {name name' : List Char} (h : Names d line name) (h' : Names d line name') :
    name = name' := by
  obtain ⟨between, right, hcut, rfl⟩ := h
  obtain ⟨between', right', hcut', rfl⟩ := h'
  rw [(hcut.unique hcut').1]

/-- **Behind the word of a directive a character begins**, so a line can be cut there at a
byte. -/
theorem fromByte?_of_cut (h : Cut d line between right) {left behind : List Char}
    (hleft : splitFirst? '=' line = some (left, behind)) :
    fromByte? (byteLength d.word.toList) left = some (left.drop d.word.length) := by
  rw [h.splitFirst?_eq, Option.some.injEq, Prod.mk.injEq] at hleft
  rw [← hleft.1, fromByte?_append, ← String.length_toList, List.drop_left]

/-! ## §3. What is read. -/

/-- A name that is not declared has no line. -/
theorem lineOf?_of_not_mem {declared : List Declaration} {name : String}
    (h : name ∉ declared.map Declaration.name) : lineOf? declared name = none := by
  unfold lineOf?
  rw [Option.map_eq_none_iff, List.find?_eq_none]
  intro d hd hname
  exact h (List.mem_map.mpr ⟨d, hd, by simpa using hname⟩)

/-- A line without an equals sign separates nothing. -/
theorem readDirective_of_not_mem (h : '=' ∉ line) (declared : List Declaration) (number : Nat) :
    readDirective declared d line number = .error (.missingSeparator d) := by
  rw [readDirective, splitFirst?_eq_none_iff.mpr h]

/-- **What is read of a line depends on what it names.** -/
theorem readDirective_of_cut (h : Cut d line between right) (declared : List Declaration)
    (number : Nat) :
    readDirective declared d line number =
      if (trim between).isEmpty then .error (.missingName d)
      else if !isName (trim between) then .error (.invalidName (String.ofList (trim between)))
      else
        match lineOf? declared (String.ofList (trim between)) with
        | some first => .error (.duplicate (String.ofList (trim between)) first)
        | none => .ok (declare d (String.ofList (trim between)) (trim right) number) := by
  have hdrop : (d.word.toList ++ between).drop d.word.length = between := by
    rw [← String.length_toList, List.drop_left]
  rw [readDirective, h.splitFirst?_eq]
  dsimp only
  generalize (d.word.toList ++ between).drop d.word.length = behind at hdrop ⊢
  subst hdrop
  rfl

/-- A line that names a name declares it, unless an earlier line does. -/
theorem readDirective_of_isName (h : Cut d line between right)
    (hname : isName (trim between) = true) (declared : List Declaration) (number : Nat) :
    readDirective declared d line number =
      match lineOf? declared (String.ofList (trim between)) with
      | some first => .error (.duplicate (String.ofList (trim between)) first)
      | none => .ok (declare d (String.ofList (trim between)) (trim right) number) := by
  have hne : ¬ (trim between).isEmpty = true := by
    intro hempty
    rw [List.isEmpty_iff.mp hempty] at hname
    cases hname
  rw [readDirective_of_cut h, if_neg hne, if_neg (by simp [hname])]

end Fanout.Source
