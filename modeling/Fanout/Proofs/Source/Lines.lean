/-
  Fanout.Proofs.Source.Lines
  ──────────────────────────
  **A header is read line by line.**

  Up to the mark of the template a header is a run of lines, and each line
  is read with its number and with what the lines before it declare.
  `readLines` is that run.  It can be cut anywhere, and whatever is read of
  a text is read of its lines before the mark:

    • `readLines_append` — a run of two parts,
    • `readHeader_append` — the lines before the mark, and the rest,
    • `records_of_readLines`, `wellDeclared_of_readLines` — what is known of
      the declarations of a run,
    • `ofText_of_readLines_error`, `ofText_of_mark`, `ofText_of_not_mark` —
      what comes of a text.
-/
import Fanout.Proofs.Source.Directive

namespace Fanout.Source

open Fanout.Text Fanout.Expr

/-! ## §1. Runs of lines. -/

/-- Reads one line before the mark, after earlier declarations. -/
def readLine (number : Nat) (declared : List Declaration) (line : List Char) :
    Except HeaderFault (List Declaration) :=
  match directive? line with
  | none => .ok declared
  | some d =>
    match readDirective declared d line number with
    | .error fault => .error (.line number fault)
    | .ok decl => .ok (declared ++ [decl])

/-- Reads lines before the mark one after the other, up to the first that is wrong. -/
def readLines (number : Nat) (declared : List Declaration) :
    List (List Char) → Except HeaderFault (List Declaration)
  | [] => .ok declared
  | line :: rest =>
    (readLine number declared line).bind fun known => readLines (number + 1) known rest

theorem readLines_cons (number : Nat) (declared : List Declaration) (line : List Char)
    (rest : List (List Char)) :
    readLines number declared (line :: rest) =
      (readLine number declared line).bind fun known => readLines (number + 1) known rest := rfl

/-- **A run of two parts is the first part and then the second.** -/
theorem readLines_append (front rest : List (List Char)) :
    ∀ (number : Nat) (declared : List Declaration),
      readLines number declared (front ++ rest) =
        (readLines number declared front).bind fun known =>
          readLines (number + front.length) known rest := by
  induction front with
  | nil => intro number declared; rfl
  | cons line front ih =>
      intro number declared
      show (readLine number declared line).bind _ = _
      rw [readLines_cons]
      cases readLine number declared line with
      | error fault => rfl
      | ok known =>
          show readLines (number + 1) known (front ++ rest) =
            (readLines (number + 1) known front).bind _
          rw [ih, List.length_cons, Nat.add_right_comm, Nat.add_assoc]

/-- A run of one line. -/
theorem readLines_singleton (number : Nat) (declared : List Declaration) (line : List Char) :
    readLines number declared [line] = readLine number declared line := by
  rw [readLines_cons]
  cases readLine number declared line with
  | error fault => rfl
  | ok known => rfl

/-! ## §2. Headers. -/

/-- The mark ends a header. -/
theorem readHeader_of_mark {line : List Char} (hmark : isMark line = true) (number : Nat)
    (declared : List Declaration) (rest : List (List Char)) :
    readHeader number declared (line :: rest) = .ok ⟨declared, number + 1, rest⟩ := by
  rw [readHeader, if_pos hmark]

/-- Any other line is read, and the header goes on. -/
theorem readHeader_of_not_mark {line : List Char} (hmark : isMark line = false) (number : Nat)
    (declared : List Declaration) (rest : List (List Char)) :
    readHeader number declared (line :: rest) =
      (readLine number declared line).bind fun known => readHeader (number + 1) known rest := by
  rw [readHeader, if_neg (by rw [hmark]; exact Bool.false_ne_true), readLine]
  cases directive? line with
  | none => rfl
  | some d =>
      dsimp only
      cases readDirective declared d line number with
      | error fault => rfl
      | ok decl => rfl

/-- **Lines that are not the mark are read before the rest.** -/
theorem readHeader_append (front rest : List (List Char)) :
    ∀ (number : Nat) (declared : List Declaration), (∀ line ∈ front, isMark line = false) →
      readHeader number declared (front ++ rest) =
        (readLines number declared front).bind fun known =>
          readHeader (number + front.length) known rest := by
  induction front with
  | nil => intro number declared _; rfl
  | cons line front ih =>
      intro number declared h
      rw [List.cons_append, readHeader_of_not_mark (h line List.mem_cons_self), readLines_cons]
      cases readLine number declared line with
      | error fault => rfl
      | ok known =>
          show readHeader (number + 1) known (front ++ rest) =
            (readLines (number + 1) known front).bind _
          rw [ih _ _ fun other hother => h other (List.mem_cons_of_mem line hother),
            List.length_cons, Nat.add_right_comm, Nat.add_assoc]

/-- A header that ends with its mark declares what the lines before the mark declare. -/
theorem readHeader_of_readLines {front : List (List Char)} {last : List Char}
    (hfront : ∀ line ∈ front, isMark line = false) (hlast : isMark last = true)
    {known : List Declaration} (hread : readLines 1 [] front = .ok known)
    (rest : List (List Char)) :
    readHeader 1 [] (front ++ last :: rest) = .ok ⟨known, front.length + 2, rest⟩ := by
  rw [readHeader_append front _ 1 [] hfront, hread]
  show readHeader (1 + front.length) known (last :: rest) = _
  rw [readHeader_of_mark hlast, Nat.add_comm 1]

/-! ## §3. What is known of a run. -/

variable {front : List (List Char)} {known : List Declaration}

/-- **What a run declares is recorded on its lines.** -/
theorem records_of_readLines (hfront : ∀ line ∈ front, isMark line = false)
    (hread : readLines 1 [] front = .ok known) : Records front known := by
  -- With the mark behind them the lines are a header.
  have hmark : isMark mark.toList = true := by decide
  have hheader := readHeader_of_readLines hfront hmark hread []
  obtain ⟨more, last, hmore, -, -, -, hrecords⟩ := records_of_readHeader _ records_nil hheader
  obtain ⟨rfl, -⟩ := List.append_inj' hmore rfl
  exact hrecords

/-- A run declares names, and no name twice. -/
theorem wellDeclared_of_readLines (hfront : ∀ line ∈ front, isMark line = false)
    (hread : readLines 1 [] front = .ok known) : WellDeclared known := by
  have hmark : isMark mark.toList = true := by decide
  exact wellDeclared_of_readHeader _ wellDeclared_nil
    (readHeader_of_readLines hfront hmark hread [])

/-! ## §4. Texts. -/

/-- The lines before the first that is the mark; all of them if none is. -/
def beforeMark (ls : List (List Char)) : List (List Char) := ls.takeWhile fun line => !isMark line

theorem isMark_eq_false_iff {line : List Char} : isMark line = false ↔ trim line ≠ mark.toList := by
  rw [← Bool.not_eq_true, isMark_iff]

theorem isMark_of_mem_beforeMark (ls : List (List Char)) :
    ∀ line ∈ beforeMark ls, isMark line = false := by
  intro line hline
  simpa using List.mem_takeWhile_imp hline

/-- Lines are those before the mark, or the mark follows these. -/
theorem cases_beforeMark (ls : List (List Char)) :
    (ls = beforeMark ls ∧ ∀ line ∈ ls, isMark line = false) ∨
      ∃ last rest, ls = beforeMark ls ++ last :: rest ∧ isMark last = true := by
  have hsplit : beforeMark ls ++ ls.dropWhile (fun line => !isMark line) = ls :=
    List.takeWhile_append_dropWhile
  cases hrest : ls.dropWhile fun line => !isMark line with
  | nil =>
      rw [hrest, List.append_nil] at hsplit
      refine .inl ⟨hsplit.symm, fun line hline => ?_⟩
      rw [← hsplit] at hline
      exact isMark_of_mem_beforeMark ls line hline
  | cons last rest =>
      rw [hrest] at hsplit
      have hhead := List.head?_dropWhile_not (fun line => !isMark line) ls
      rw [hrest] at hhead
      exact .inr ⟨last, rest, hsplit.symm, by simpa using hhead⟩

/-- Behind the lines before the mark stands the mark, or nothing. -/
theorem exists_rest (ls : List (List Char)) :
    ∃ rest, ls = beforeMark ls ++ rest ∧
      (rest = [] ∨ ∃ last more, rest = last :: more ∧ isMark last = true) := by
  rcases cases_beforeMark ls with ⟨hall, -⟩ | ⟨last, more, hcut, hlast⟩
  · exact ⟨[], by rw [List.append_nil]; exact hall, .inl rfl⟩
  · exact ⟨last :: more, hcut, .inr ⟨last, more, rfl, hlast⟩⟩

/-- **A text fails with its first lines**, whatever stands behind them. -/
theorem ofText_of_readLines_error (path : Path) {text : String} {rest : List (List Char)}
    {fault : HeaderFault} (hlines : lines text.toList = front ++ rest)
    (hfront : ∀ line ∈ front, isMark line = false) (hread : readLines 1 [] front = .error fault) :
    ofText path text = .error (.ofHeader path fault) := by
  rw [ofText, hlines, readHeader_append front rest 1 [] hfront, hread]
  rfl

/-- **A text with the mark is read up to there**, and what stands behind the mark is its
template. -/
theorem ofText_of_mark (path : Path) {text : String} {last : List Char}
    {rest : List (List Char)} (hlines : lines text.toList = front ++ last :: rest)
    (hfront : ∀ line ∈ front, isMark line = false) (hlast : isMark last = true)
    (hread : readLines 1 [] front = .ok known) :
    ofText path text = .ok ⟨path, known, String.ofList rest.flatten, front.length + 2⟩ := by
  rw [ofText, hlines, readHeader_of_readLines hfront hlast hread]

/-- **A text without the mark is read to its end**, and the mark is missing. -/
theorem ofText_of_not_mark (path : Path) {text : String}
    (hmark : ∀ line ∈ lines text.toList, isMark line = false)
    (hread : readLines 1 [] (lines text.toList) = .ok known) :
    ofText path text = .error (.missingTemplate path) := by
  have hsplit := readHeader_append (lines text.toList) [] 1 [] hmark
  rw [List.append_nil, hread] at hsplit
  rw [ofText, hsplit]
  rfl

end Fanout.Source
