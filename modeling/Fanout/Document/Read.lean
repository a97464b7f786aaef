/-
  Fanout.Document.Read
  ────────────────────
  **Reading a TOML document.**

  A document is a sequence of lines: pairs of a key and a value, and the
  headers of tables.  `readDocument` gives the keys and values of the table
  that the whole document is.
-/
import Fanout.Document.Scalar

namespace Fanout.Document

/-! ## §1. Values. -/

/-- The deepest nesting of arrays and of tables between braces. -/
def maxNesting : Nat := 80

/-- Reads the members of an array up to its closing bracket. -/
def arrayMembers (inner : Scanner Value) : Nat → Scanner (List Value)
  | 0, _ => none
  | fuel + 1, cs =>
    match skipTrivia false cs with
    | none => none
    | some (']' :: rest) => some ([], rest)
    | some cs =>
      match inner cs with
      | none => none
      | some (v, rest) =>
        match skipTrivia false rest with
        | some (',' :: rest) =>
          (arrayMembers inner fuel rest).map fun (vs, rest) => (v :: vs, rest)
        | some (']' :: rest) => some ([v], rest)
        | _ => none

/-- Reads a dotted key, an equals sign and a value. -/
def pair (inner : Scanner Value) : Scanner (List String × Value) := fun cs =>
  match dottedKey (cs.length + 1) cs with
  | some (keys, '=' :: rest) =>
    (inner (skipGaps rest)).map fun (v, rest) => ((keys, v), rest)
  | _ => none

/-- Adds a value under dotted keys to a table. -/
def addKeys (keys : List String) (v : Value) (kind : TableKind) (entries : Entries) :
    Option Entries :=
  match keys.getLast? with
  | some key => addPair keys.dropLast key v kind entries
  | none => none

/-- Reads the pairs of a table up to its closing brace. -/
def tableMembers (inner : Scanner Value) : Nat → Entries → Scanner Entries
  | 0, _, _ => none
  | fuel + 1, entries, cs =>
    match skipTrivia false cs with
    | none => none
    | some ('\x7d' :: rest) => some (entries, rest)
    | some cs =>
      match pair inner cs with
      | none => none
      | some ((keys, v), rest) =>
        match addKeys keys v .inlined entries with
        | none => none
        | some entries =>
          match skipTrivia false rest with
          | some (',' :: rest) => tableMembers inner fuel entries rest
          | some ('\x7d' :: rest) => some (entries, rest)
          | _ => none

/-- Reads a value in which arrays and tables may be nested to a depth. -/
def value : Nat → Scanner Value
  | _, [] => none
  | depth, c :: cs =>
    match quoteStyle? c with
    | some escapes =>
      (quotedText c escapes cs).map fun (text, rest) => (.text (String.ofList text), rest)
    | none =>
      if c = '[' then
        match depth with
        | 0 => none
        | depth + 1 =>
          (arrayMembers (value depth) (cs.length + 1) cs).map fun (vs, rest) =>
            (.array false vs, rest)
      else if c = '\x7b' then
        match depth with
        | 0 => none
        | depth + 1 =>
          (tableMembers (value depth) (cs.length + 1) [] cs).map fun (es, rest) =>
            (.table .inlined es, rest)
      else scalar (c :: cs)

/-! ## §2. Lines. -/

/-- A document while it is read: what it holds, and the table that pairs go to. -/
structure Draft where
  /-- The table that the document is. -/
  entries : Entries
  /-- The keys of the header read last. -/
  header : List String

/-- Adds a pair to the table of the header read last. -/
def Draft.addPair (d : Draft) (keys : List String) (v : Value) : Option Draft :=
  (within false (fun kind es => addKeys keys v kind es) d.header .header d.entries).map fun es =>
    { d with entries := es }

/-- Reads a header behind its opening brackets; `element` tells whether there are two. -/
def header (element : Bool) (d : Draft) (cs : List Char) : Option (Draft × List Char) :=
  match dottedKey (cs.length + 1) (skipGaps cs) with
  | none => none
  | some (keys, rest) =>
    let behind :=
      match element, rest with
      | true, ']' :: ']' :: rest => some rest
      | false, ']' :: rest => some rest
      | _, _ => none
    match behind, keys.getLast? with
    | some rest, some key =>
      let grown :=
        if element then addElement keys.dropLast key d.entries
        else addTable keys.dropLast key d.entries
      grown.map fun es => (⟨es, keys⟩, rest)
    | _, _ => none

/-- Reads what a line holds, which begins with no separator. -/
def lineContent (d : Draft) (cs : List Char) : Option (Draft × List Char) :=
  match cs with
  | '[' :: '[' :: rest => header true d rest
  | '[' :: rest => header false d rest
  | [] => some (d, [])
  | c :: rest =>
    if c = '#' ∨ c = '\n' ∨ c = '\r' then some (d, c :: rest)
    else
      match pair (value maxNesting) (c :: rest) with
      | none => none
      | some ((keys, v), rest) => (d.addPair keys v).map fun d => (d, rest)

/-- Reads at most `fuel` lines. -/
def readLines : Nat → Draft → List Char → Option Draft
  | _, d, [] => some d
  | 0, _, _ => none
  | fuel + 1, d, cs =>
    match lineContent d (skipGaps cs) with
    | none => none
    | some (d, rest) =>
      match endLine false rest with
      | none => none
      | some rest => readLines fuel d rest

/-- The text without a byte order mark at its start. -/
def skipMark : List Char → List Char
  | '\uFEFF' :: cs => cs
  | cs => cs

/-- The keys and values of a document. -/
def readDocument (text : String) : Option Entries :=
  let cs := skipMark text.toList
  (readLines (cs.length + 1) ⟨[], []⟩ cs).map Draft.entries

end Fanout.Document
