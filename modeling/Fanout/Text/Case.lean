/-
  Fanout.Text.Case
  ────────────────
  **Upper and lower case of a text.**

  Case conversion is full: a character may become several.  It looks at one
  character at a time, with a single exception: a capital sigma at the end
  of a word becomes the final form of the small letter.
-/
import Fanout.Text.CaseTable

namespace Fanout.Text

/-! ## §1. One character. -/

/-- The characters that `c` becomes under a pair of conversion tables. -/
def convertCase (expansions : Array (Nat × List Nat)) (runs : Array CaseRun) (c : Char) :
    List Char :=
  match expansions.find? fun e => e.1 == c.toNat with
  | some e => e.2.map Char.ofNat
  | none =>
    match runs.find? fun r => r.holds c.toNat with
    | some r => [Char.ofNat ((c.toNat : Int) + r.shift).toNat]
    | none => [c]

/-- The upper case of one character. -/
def upperChar (c : Char) : List Char :=
  if c.toNat < 128 then [c.toUpper] else convertCase upperExpansions upperRuns c

/-- The lower case of one character. -/
def lowerChar (c : Char) : List Char :=
  if c.toNat < 128 then [c.toLower] else convertCase lowerExpansions lowerRuns c

/-! ## §2. Whole texts. -/

/-- The upper case of a text. -/
def upper (s : String) : String := String.ofList (s.toList.flatMap upperChar)

/-- Is the first character that matters for case a letter of a definite case? -/
def meetsCased (cs : List Char) : Bool :=
  match cs.dropWhile isCaseIgnorable with
  | c :: _ => isCased c
  | [] => false

/-- The capital sigma. -/
def capitalSigma : Char := 'Σ'

/-- The lower case of a text; `before` holds the characters already passed, the
nearest first.  A capital sigma with a letter before it and none after it ends a
word. -/
def lowerFrom (before : List Char) : List Char → List Char
  | [] => []
  | c :: rest =>
    let here :=
      if c = capitalSigma then
        if meetsCased before && !meetsCased rest then ['ς'] else ['σ']
      else lowerChar c
    here ++ lowerFrom (c :: before) rest

/-- The lower case of a text. -/
def lower (s : String) : String := String.ofList (lowerFrom [] s.toList)

end Fanout.Text
