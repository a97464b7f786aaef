/-
  Fanout.Expr.Token.Scan
  ──────────────────────
  **From characters to tokens.**

  `scan` reads one token from the front of a text and says how many
  characters it took.  `lexFrom` skips the separators between tokens and
  counts bytes as it goes along, so that every token carries the byte where
  it starts.
-/
import Fanout.Text.Utf8
import Fanout.Expr.Failure

namespace Fanout.Expr

open Fanout.Number Fanout.Text

/-! ## §1. Character classes. -/

/-- The characters that separate tokens. -/
def isSeparator (c : Char) : Bool := c == ' ' || c == '\t' || c == '\n' || c == '\r'

/-- The characters that begin a name. -/
def isNameStart (c : Char) : Bool := c.isAlpha || c == '_'

/-- The characters of a name. -/
def isNameChar (c : Char) : Bool := c.isAlphanum || c == '_'

/-- The characters of the digits of a number. -/
def isNumberChar (c : Char) : Bool := c.isDigit || c == '_'

/-- Is the text a name? -/
def isName : List Char → Bool
  | [] => false
  | c :: cs => isNameStart c && cs.all isNameChar

/-! ## §2. Words and signs. -/

/-- A token and the number of characters it took after its first one. -/
structure Scan where
  /-- The token. -/
  token : Token
  /-- How many more characters it took. -/
  extra : Nat

/-- The words with a fixed meaning. -/
def keywords : List (String × Symbol) :=
  [("and", .andWord), ("or", .orWord), ("not", .notWord), ("if", .ifWord), ("else", .elseWord),
    ("True", .trueWord), ("False", .falseWord), ("None", .noneWord)]

/-- The token of a word: a keyword or a name. -/
def wordToken (word : String) : Token :=
  match keywords.lookup word with
  | some s => .symbol s
  | none => .ident word

/-- A word that begins with `c`. -/
def scanWord (c : Char) (cs : List Char) : Scan :=
  let more := cs.takeWhile isNameChar
  ⟨wordToken (String.ofList (c :: more)), more.length⟩

/-- The symbols that are one character and begin no longer one. -/
def singleSymbol? : Char → Option Symbol
  | '(' => some .leftParen
  | ')' => some .rightParen
  | '[' => some .leftBracket
  | ']' => some .rightBracket
  | ',' => some .comma
  | '+' => some .plus
  | '-' => some .minus
  | '%' => some .percent
  | _ => none

/-- The symbols of one character that a second character extends: the one, the second
character and the longer symbol. -/
def extensibleSymbol? : Char → Option (Symbol × Char × Symbol)
  | '*' => some (.star, '*', .doubleStar)
  | '/' => some (.slash, '/', .doubleSlash)
  | '<' => some (.less, '=', .lessEq)
  | '>' => some (.greater, '=', .greaterEq)
  | '!' => some (.notWord, '=', .notEq)
  | _ => none

/-- The symbols that are one character written twice. -/
def twinSymbol? : Char → Option Symbol
  | '=' => some .eqEq
  | '&' => some .andWord
  | '|' => some .orWord
  | _ => none

/-! ## §3. Texts. -/

/-- What a backslash and the character after it stand for. -/
def unescape (c : Char) : List Char :=
  if c = 'n' then ['\n']
  else if c = 't' then ['\t']
  else if c = 'r' then ['\r']
  else if c = '0' then ['\x00']
  else if c = '\\' ∨ c = '\'' ∨ c = '"' then [c]
  else ['\\', c]

/-- The contents of a text up to its closing quote, and the number of characters read. -/
def readText (quote : Char) : List Char → Option (List Char × Nat)
  | [] => none
  | c :: cs =>
    if c = quote then some ([], 1)
    else if c = '\\' then
      match cs with
      | [] => none
      | e :: rest => (readText quote rest).map fun (text, n) => (unescape e ++ text, n + 2)
    else (readText quote cs).map fun (text, n) => (c :: text, n + 1)

/-! ## §4. Numbers. -/

/-- The digits behind a point, if the text begins with one.  A point before a letter or an
underscore belongs to an attribute and not to the number. -/
def readFraction : List Char → Option (List Char)
  | '.' :: d :: rest => if isNameStart d then none else some ((d :: rest).takeWhile isNumberChar)
  | '.' :: [] => some []
  | _ => none

/-- The value of an exponent, if the text begins with one, and the number of characters
read. -/
def readPower : List Char → Option (Int × Nat)
  | [] => none
  | e :: rest =>
    if e = 'e' ∨ e = 'E' then
      let (negative, unsigned) := splitSign rest
      let digits := unsigned.takeWhile Char.isDigit
      if digits.isEmpty then none
      else
        let size : Int := digitsValue digits
        some (if negative then -size else size,
          1 + (rest.length - unsigned.length) + digits.length)
    else none

/-- The digits without the underscores between them. -/
def dropUnderscores (cs : List Char) : List Char := cs.filter fun c => c != '_'

/-- A number that begins with `c`: an integer unless it has a fraction or an exponent. -/
def scanNumber (c : Char) (cs : List Char) : Except SyntaxFault Scan :=
  let whole := (c :: cs).takeWhile isNumberChar
  let left := (c :: cs).dropWhile isNumberChar
  let fraction := readFraction left
  let pointed := whole.length + (fraction.map fun ds => ds.length + 1).getD 0
  let places := dropUnderscores (fraction.getD [])
  let digits := dropUnderscores whole ++ places
  let shift : Int := places.length
  match readPower ((c :: cs).drop pointed) with
  | some (size, n) =>
    .ok ⟨.float (floatOfDecimal false (digitsValue digits) (size - shift)), pointed + n - 1⟩
  | none =>
    if fraction.isSome then
      .ok ⟨.float (floatOfDecimal false (digitsValue digits) (-shift)), pointed - 1⟩
    else
      match narrow? (digitsValue digits) with
      | some n => .ok ⟨.int n, pointed - 1⟩
      | none => .error (.wideInteger (String.ofList digits))

/-! ## §5. Any token. -/

/-- Reads one token from a text that begins with `c`. -/
def scan (c : Char) (cs : List Char) : Except SyntaxFault Scan :=
  match singleSymbol? c with
  | some s => .ok ⟨.symbol s, 0⟩
  | none =>
    match extensibleSymbol? c with
    | some (one, next, two) =>
      .ok (if cs.head? = some next then ⟨.symbol two, 1⟩ else ⟨.symbol one, 0⟩)
    | none =>
      match twinSymbol? c with
      | some s =>
        if cs.head? = some c then .ok ⟨.symbol s, 1⟩
        else .error (.halfOperator (String.ofList [c, c]))
      | none =>
        if c = '"' ∨ c = '\'' then
          match readText c cs with
          | some (text, n) => .ok ⟨.str (String.ofList text), n⟩
          | none => .error .openText
        else if c.isDigit then scanNumber c cs
        else if c = '.' then
          if cs.head?.any Char.isDigit then scanNumber c cs else .ok ⟨.symbol .dot, 0⟩
        else if isNameStart c then .ok (scanWord c cs)
        else .error (.strayCharacter c)

/-! ## §6. Whole texts. -/

/-- The tokens of a text that starts at a byte, and the byte where it ends. -/
def lexFrom (position : Nat) : List Char → Outcome (List Located × Nat)
  | [] => .ok ([], position)
  | c :: cs =>
    if isSeparator c then lexFrom (position + 1) cs
    else
      match scan c cs with
      | .error fault => .error (.malformed fault position)
      | .ok s =>
        match lexFrom (position + byteLength (c :: cs.take s.extra)) (cs.drop s.extra) with
        | .error e => .error e
        | .ok (items, stop) => .ok (⟨s.token, position⟩ :: items, stop)
termination_by cs => cs.length
decreasing_by
  · simp
  · simp only [List.length_drop, List.length_cons]; omega

/-- The tokens of a text; there has to be one at least. -/
def lex (cs : List Char) : Outcome Tokens :=
  match lexFrom 0 cs with
  | .error e => .error e
  | .ok ([], _) => .error (.malformed .empty 0)
  | .ok (items, stop) => .ok ⟨items, stop⟩

end Fanout.Expr
