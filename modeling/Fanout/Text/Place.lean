/-
  Fanout.Text.Place
  ─────────────────
  **Places in a text, by line and byte.**

  Lines and the bytes of a line are counted from 1; a line feed ends its
  line.
-/

namespace Fanout.Text

/-- A place in a text. -/
structure Place where
  /-- The line, from 1. -/
  line : Nat
  /-- The byte of the line, from 1. -/
  column : Nat
  deriving DecidableEq, Repr

namespace Place

/-- The place behind a character. -/
def after (p : Place) (c : Char) : Place :=
  if c = '\n' then ⟨p.line + 1, 1⟩ else ⟨p.line, p.column + c.utf8Size⟩

/-- The place behind a text. -/
def afterAll (p : Place) (cs : List Char) : Place := cs.foldl after p

/-- Going on behind a first part is going on behind the whole. -/
theorem afterAll_append (p : Place) (as bs : List Char) :
    p.afterAll (as ++ bs) = (p.afterAll as).afterAll bs := by
  simp [afterAll]

end Place

end Fanout.Text
