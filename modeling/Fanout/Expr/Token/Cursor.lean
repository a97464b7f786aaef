/-
  Fanout.Expr.Token.Cursor
  ────────────────────────
  **The reading of tokens at the level of bytes.**

  A cursor stands at a byte of a text.  It looks at the bytes ahead, of which
  only those of ASCII characters have a meaning, and moves on by counting
  bytes; the characters themselves it takes out of the text between two
  bytes.  Nothing here knows where characters begin: a text that is cut
  inside of one is a fault, `Stop.split`, from which there is no way on.
-/
import Fanout.Expr.Token.Scan

namespace Fanout.Expr

open Fanout.Number Fanout.Text

/-- A byte as the character with its code. -/
def letter (b : UInt8) : Char := Char.ofNat b.toNat

/-- A byte of a text. -/
structure Cursor where
  /-- The text. -/
  text : List Char
  /-- The number of bytes before the cursor. -/
  offset : Nat
  deriving DecidableEq

/-- Why the reading of tokens ends without them. -/
inductive Stop where
  /-- A fault of the text. -/
  | fault (f : SyntaxFault) (position : Nat)
  /-- A number with a point or an exponent that cannot be read. -/
  | noNumber (digits : String) (position : Nat)
  /-- A text taken between bytes one of which is inside a character. -/
  | split (start stop : Nat)
  deriving DecidableEq

namespace Cursor

/-! ## §1. Looking ahead and moving on. -/

/-- The bytes from the cursor on. -/
def ahead (k : Cursor) : List Char := ((utf8 k.text).drop k.offset).map letter

/-- The byte `n` bytes behind the cursor, if the text goes on that far. -/
def peek (k : Cursor) (n : Nat) : Option Char := k.ahead[n]?

/-- The cursor `n` bytes further on. -/
def advance (k : Cursor) (n : Nat) : Cursor := { k with offset := k.offset + n }

/-- The cursor behind the bytes of a kind that come next. -/
def skipWhile (k : Cursor) (p : Char → Bool) : Cursor := k.advance (k.ahead.takeWhile p).length

/-- The text from one cursor to another. -/
def slice (k l : Cursor) : Except Stop (List Char) :=
  match betweenBytes? k.offset l.offset k.text with
  | some cs => .ok cs
  | none => .error (.split k.offset l.offset)

/-- The text from the cursor on. -/
def sliceToEnd (k : Cursor) : Except Stop (List Char) :=
  match fromByte? k.offset k.text with
  | some cs => .ok cs
  | none => .error (.split k.offset (byteLength k.text))

/-! ## §2. Numbers. -/

/-- The cursor behind a point and the digits after it, if a point is next that belongs to no
attribute. -/
def skipFraction? (k : Cursor) : Option Cursor :=
  if k.peek 0 = some '.' ∧ (k.peek 1).any isNameStart = false then
    some ((k.advance 1).skipWhile isNumberChar)
  else none

/-- The cursor behind an exponent, if its mark is next and a digit behind it or behind a sign. -/
def skipPower? (k : Cursor) : Option Cursor :=
  if k.peek 0 = some 'e' ∨ k.peek 0 = some 'E' then
    let sign := if k.peek 1 = some '+' ∨ k.peek 1 = some '-' then 1 else 0
    if (k.peek (1 + sign)).any Char.isDigit then
      some ((k.advance (1 + sign)).skipWhile Char.isDigit)
    else none
  else none

/-- The value of a number's digits. -/
def numberToken (isFloat : Bool) (digits : List Char) (position : Nat) : Except Stop Token :=
  if isFloat then
    match readFloat? digits with
    | some x => .ok (.float x)
    | none => .error (.noNumber (String.ofList digits) position)
  else
    match readWord? digits with
    | some n => .ok (.int n)
    | none => .error (.fault (.wideInteger (String.ofList digits)) position)

/-- A number: an integer unless a fraction or an exponent follows the digits. -/
def number (k : Cursor) : Except Stop (Token × Cursor) := do
  let whole := k.skipWhile isNumberChar
  let fraction := whole.skipFraction?
  let pointed := fraction.getD whole
  let power := pointed.skipPower?
  let last := power.getD pointed
  let run ← k.slice last
  let token ← numberToken (fraction.isSome || power.isSome) (dropUnderscores run) k.offset
  .ok (token, last)

/-! ## §3. Texts, words and signs. -/

/-- The contents of a text up to its closing quote, and the byte behind the quote, where `i`
bytes were read before. -/
def closing (quote : Char) (i : Nat) : List Char → Option (List Char × Nat)
  | [] => none
  | c :: cs =>
    if c = quote then some ([], i + 1)
    else if c = '\\' then
      match cs with
      | [] => none
      | e :: rest =>
        (closing quote (i + 1 + e.utf8Size) rest).map fun (text, n) => (unescape e ++ text, n)
    else (closing quote (i + c.utf8Size) cs).map fun (text, n) => (c :: text, n)

/-- A text that begins with the quote at the cursor. -/
def string (k : Cursor) (quote : Char) : Except Stop (Token × Cursor) := do
  let inside := k.advance 1
  let cs ← inside.sliceToEnd
  match closing quote 0 cs with
  | some (text, n) => .ok (.str (String.ofList text), inside.advance n)
  | none => .error (.fault .openText k.offset)

/-- A keyword or a name. -/
def word (k : Cursor) : Except Stop (Token × Cursor) := do
  let last := k.skipWhile isNameChar
  let w ← k.slice last
  .ok (wordToken (String.ofList w), last)

/-- A character that begins no token. -/
def stray (k : Cursor) : Except Stop (Token × Cursor) := do
  let cs ← k.sliceToEnd
  .error (.fault (.strayCharacter (cs.head?.getD '?')) k.offset)

/-- The token that begins with the byte `ch` at the cursor, and the cursor behind it. -/
def token (k : Cursor) (ch : Char) : Except Stop (Token × Cursor) :=
  match singleSymbol? ch with
  | some s => .ok (.symbol s, k.advance 1)
  | none =>
    match extensibleSymbol? ch with
    | some (one, next, two) =>
      .ok (if k.peek 1 = some next then (.symbol two, k.advance 2) else (.symbol one, k.advance 1))
    | none =>
      match twinSymbol? ch with
      | some s =>
        if k.peek 1 = some ch then .ok (.symbol s, k.advance 2)
        else .error (.fault (.halfOperator (String.ofList [ch, ch])) k.offset)
      | none =>
        if ch = '"' ∨ ch = '\'' then k.string ch
        else if ch.isDigit then k.number
        else if ch = '.' then
          if (k.peek 1).any Char.isDigit then k.number else .ok (.symbol .dot, k.advance 1)
        else if isNameStart ch then k.word
        else k.stray

/-! ## §4. Whole texts. -/

/-- The tokens from the cursor on, and the byte where they end.  Every turn skips a separator or
reads a token; `none` if `fuel` turns do not reach the end. -/
def turns (fuel : Nat) (k : Cursor) : Option (Except Stop (List Located × Nat)) :=
  match k.peek 0 with
  | none => some (.ok ([], k.offset))
  | some ch =>
    match fuel with
    | 0 => none
    | fuel + 1 =>
      if isSeparator ch then turns fuel (k.advance 1)
      else
        match k.token ch with
        | .error stop => some (.error stop)
        | .ok (token, next) =>
          (turns fuel next).map fun
            | .error stop => .error stop
            | .ok (items, stop) => .ok (⟨token, k.offset⟩ :: items, stop)

end Cursor

/-- The tokens of a text within a number of turns; there has to be one at least. -/
def lexWithin (fuel : Nat) (cs : List Char) : Option (Except Stop Tokens) :=
  ((⟨cs, 0⟩ : Cursor).turns fuel).map fun
    | .error stop => .error stop
    | .ok ([], _) => .error (.fault .empty 0)
    | .ok (items, stop) => .ok ⟨items, stop⟩

end Fanout.Expr
