/-
  Fanout.Text.Split
  ─────────────────
  **Texts cut at a character.**
-/

namespace Fanout.Text

/-- The texts between the occurrences of a character; there is one more of them than
occurrences. -/
def splitAt (separator : Char) : List Char → List (List Char)
  | [] => [[]]
  | c :: cs =>
    if c = separator then [] :: splitAt separator cs
    else
      match splitAt separator cs with
      | [] => [[c]]
      | part :: parts => (c :: part) :: parts

/-- The text before the first occurrence of a character, and the text behind it. -/
def splitFirst? (separator : Char) : List Char → Option (List Char × List Char)
  | [] => none
  | c :: cs =>
    if c = separator then some ([], cs)
    else (splitFirst? separator cs).map fun (before, behind) => (c :: before, behind)

/-- The text before the last occurrence of a character, and the text behind it. -/
def splitLast? (separator : Char) (cs : List Char) : Option (List Char × List Char) :=
  (splitFirst? separator cs.reverse).map fun (behind, before) =>
    (before.reverse, behind.reverse)

/-- The lines of a text, each with the line feed that ends it. -/
def lines : List Char → List (List Char)
  | [] => []
  | c :: cs =>
    if c = '\n' then [c] :: lines cs
    else
      match lines cs with
      | [] => [[c]]
      | line :: rest => (c :: line) :: rest

/-- The lines make up the text. -/
theorem flatten_lines (cs : List Char) : (lines cs).flatten = cs := by
  induction cs with
  | nil => rfl
  | cons c cs ih =>
    unfold lines
    split
    · simp [ih]
    · split
      · rename_i h
        rw [h] at ih
        simp [← ih]
      · rename_i line rest h
        rw [h] at ih
        simp [← ih]

/-- There is a text between any two neighbouring occurrences and at both ends. -/
theorem length_splitAt (separator : Char) (cs : List Char) :
    (splitAt separator cs).length = cs.count separator + 1 := by
  induction cs with
  | nil => rfl
  | cons c cs ih =>
    unfold splitAt
    split
    · rename_i h
      simp [ih, h]
    · rename_i h
      split
      · rename_i hn
        rw [hn] at ih
        simp at ih
      · rename_i part parts hp
        rw [hp] at ih
        simpa [h] using ih

end Fanout.Text
