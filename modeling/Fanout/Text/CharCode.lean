/-
  Fanout.Text.CharCode
  ────────────────────
  **Characters given by their code.**

  Behind a backslash a letter can announce the code of a character; the
  letter fixes how many hexadecimal digits there are.
-/

namespace Fanout.Text

/-- The value of a hexadecimal digit. -/
def hexValue? (c : Char) : Option Nat :=
  if c.isDigit then some (c.toNat - '0'.toNat)
  else if 'a' ≤ c ∧ c ≤ 'f' then some (c.toNat - 'a'.toNat + 10)
  else if 'A' ≤ c ∧ c ≤ 'F' then some (c.toNat - 'A'.toNat + 10)
  else none

/-- The character with a code in hexadecimal digits. -/
def coded? (digits : List Char) : Option Char :=
  match digits.mapM hexValue? with
  | none => none
  | some ns =>
    let n := ns.foldl (fun n d => n * 16 + d) 0
    if n.isValidChar then some (Char.ofNat n) else none

/-- The number of digits of a code behind a letter. -/
def codeLength? : Char → Option Nat
  | 'x' => some 2
  | 'u' => some 4
  | 'U' => some 8
  | _ => none

/-- The character whose code begins a text, and how many characters that takes together
with the letter in front. -/
def readCode (length : Nat) (cs : List Char) : Option (Char × Nat) :=
  if cs.length < length then none else (coded? (cs.take length)).map fun c => (c, length + 1)

end Fanout.Text
