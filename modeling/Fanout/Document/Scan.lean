/-
  Fanout.Document.Scan
  ────────────────────
  **Blanks, comments, texts and keys of a TOML document.**

  A scanner reads something from the front of a text and gives it with what
  is left, or nothing if the text is malformed.
-/
import Fanout.Number.Numeral
import Fanout.Text.CharCode

namespace Fanout.Document

open Fanout.Number Fanout.Text

/-- Reads from the front of a text. -/
abbrev Scanner (α : Type) := List Char → Option (α × List Char)

/-! ## §1. Characters. -/

/-- The characters that separate on a line. -/
def isGap (c : Char) : Bool := c == ' ' || c == '\t'

/-- The characters that may stand nowhere, tab excepted; line ends are among them. -/
def isControl (c : Char) : Bool := (c.toNat < 0x20 && c != '\t') || c.toNat == 0x7F

/-- The text without the separators at its start. -/
def skipGaps (cs : List Char) : List Char := cs.dropWhile isGap

/-- The text without separators, line ends and comments at its start; `comment` tells
whether it starts inside of a comment. -/
def skipTrivia (comment : Bool) : List Char → Option (List Char)
  | [] => some []
  | '\n' :: cs => skipTrivia false cs
  | '\r' :: '\n' :: cs => skipTrivia false cs
  | c :: cs =>
    if comment then if isControl c then none else skipTrivia true cs
    else if isGap c then skipTrivia false cs
    else if c = '#' then skipTrivia true cs
    else some (c :: cs)

/-- The text behind the rest of a line on which nothing but a comment follows. -/
def endLine (comment : Bool) : List Char → Option (List Char)
  | [] => some []
  | '\n' :: cs => some cs
  | '\r' :: '\n' :: cs => some cs
  | c :: cs =>
    if comment then if isControl c then none else endLine true cs
    else if isGap c then endLine false cs
    else if c = '#' then endLine true cs
    else none

/-! ## §2. Texts. -/

/-- What a backslash and a letter stand for. -/
def escape? : Char → Option Char
  | 'b' => some '\x08'
  | 't' => some '\t'
  | 'n' => some '\n'
  | 'f' => some '\x0c'
  | 'r' => some '\r'
  | 'e' => some '\x1b'
  | '"' => some '"'
  | '\\' => some '\\'
  | _ => none

/-- The character that stands behind a backslash, and how many characters it takes. -/
def readEscape : List Char → Option (Char × Nat)
  | [] => none
  | c :: cs =>
    match escape? c with
    | some e => some (e, 1)
    | none =>
      match codeLength? c with
      | none => none
      | some n => readCode n cs

/-- The text behind a backslash at the end of a line, if nothing but separators follows. -/
def foldedLine? (cs : List Char) : Option (List Char) :=
  match skipGaps cs with
  | '\n' :: rest => some (rest.dropWhile fun c => isGap c || c == '\n' || c == '\r')
  | '\r' :: '\n' :: rest => some (rest.dropWhile fun c => isGap c || c == '\n' || c == '\r')
  | _ => none

/-- A character put before what is read behind it. -/
def consFirst (c : Char) : List Char × List Char → List Char × List Char
  | (text, rest) => (c :: text, rest)

/-- Reads a text on one line up to its closing quote; a backslash escapes if `escapes` says
so. -/
def textOnLine (quote : Char) (escapes : Bool) : Nat → Scanner (List Char)
  | 0, _ => none
  | _, [] => none
  | fuel + 1, c :: cs =>
    if c = quote then some ([], cs)
    else if c = '\\' ∧ escapes = true then
      match readEscape cs with
      | none => none
      | some (e, n) => (textOnLine quote escapes fuel (cs.drop n)).map (consFirst e)
    else if isControl c then none
    else (textOnLine quote escapes fuel cs).map (consFirst c)

/-- Reads a text over several lines up to its three closing quotes, before which there may
be up to two more. -/
def textOnLines (quote : Char) (escapes : Bool) : Nat → Scanner (List Char)
  | 0, _ => none
  | _, [] => none
  | fuel + 1, c :: cs =>
    if c = quote then
      let run := (c :: cs).takeWhile (· == quote)
      if 3 ≤ run.length then
        let inside := min (run.length - 3) 2
        some (List.replicate inside quote, (c :: cs).drop (inside + 3))
      else (textOnLines quote escapes fuel cs).map (consFirst c)
    else if c = '\\' ∧ escapes = true then
      match readEscape cs with
      | some (e, n) => (textOnLines quote escapes fuel (cs.drop n)).map (consFirst e)
      | none =>
        match foldedLine? cs with
        | some rest => textOnLines quote escapes fuel rest
        | none => none
    else if c = '\n' ∨ (c = '\r' ∧ cs.head? = some '\n') then
      (textOnLines quote escapes fuel cs).map (consFirst c)
    else if isControl c then none
    else (textOnLines quote escapes fuel cs).map (consFirst c)

/-- The text without a line end at its start. -/
def skipLineEnd : List Char → List Char
  | '\n' :: cs => cs
  | '\r' :: '\n' :: cs => cs
  | cs => cs

/-- Does a quote at the start of a text open it with or without escapes? -/
def quoteStyle? : Char → Option Bool
  | '"' => some true
  | '\'' => some false
  | _ => none

/-- Reads a text between single or threefold quotes; the first of them has been read. -/
def quotedText (quote : Char) (escapes : Bool) (cs : List Char) :
    Option (List Char × List Char) :=
  match cs with
  | a :: b :: rest =>
    if a = quote ∧ b = quote then textOnLines quote escapes (rest.length + 1) (skipLineEnd rest)
    else textOnLine quote escapes (cs.length + 1) cs
  | _ => textOnLine quote escapes (cs.length + 1) cs

/-! ## §3. Keys. -/

/-- The characters of a key without quotes. -/
def isKeyChar (c : Char) : Bool := c.isAlphanum || c == '_' || c == '-'

/-- Reads a key. -/
def simpleKey : Scanner String
  | [] => none
  | c :: cs =>
    match quoteStyle? c with
    | some escapes =>
      (textOnLine c escapes (cs.length + 1) cs).map fun (text, rest) =>
        (String.ofList text, rest)
    | none =>
      let key := (c :: cs).takeWhile isKeyChar
      if key.isEmpty then none else some (String.ofList key, (c :: cs).drop key.length)

/-- Reads at most `fuel` keys with points between them, and the separators behind them. -/
def dottedKey : Nat → Scanner (List String)
  | 0, _ => none
  | fuel + 1, cs =>
    match simpleKey cs with
    | none => none
    | some (key, rest) =>
      match skipGaps rest with
      | '.' :: rest =>
        (dottedKey fuel (skipGaps rest)).map fun (keys, rest) => (key :: keys, rest)
      | rest => some ([key], rest)

end Fanout.Document
