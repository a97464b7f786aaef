/-
  Fanout.Document.Table
  ─────────────────────
  **Values of a TOML document, and how its tables grow.**

  A table is begun by a header, on the way to a header, by a dotted key or
  in one line; from how it was begun follows what may still be added to it.
  `addPair`, `addTable` and `addElement` add to a document or refuse.
-/
import Fanout.Assoc

namespace Fanout.Document

/-! ## §1. Values. -/

/-- How a table was begun. -/
inductive TableKind where
  /-- By a header of its own. -/
  | header
  /-- On the way to a header. -/
  | implied
  /-- By a dotted key. -/
  | dotted
  /-- Between braces. -/
  | inlined
  deriving DecidableEq, Repr

/-- A value of a document. -/
inductive Value where
  | text (s : String)
  | integer (n : Int)
  | float (x : Float)
  | truth (b : Bool)
  /-- A date, a time, or both. -/
  | moment (s : String)
  /-- An array; its elements may each have been begun by a header. -/
  | array (ofTables : Bool) (items : List Value)
  | table (kind : TableKind) (entries : List (String × Value))

/-- The keys and values of a table. -/
abbrev Entries := List (String × Value)

/-! ## §2. Growing tables. -/

/-- Changes the table at the end of a path of keys; tables that are missing on the way are
begun.  An inlined table is closed, and a dotted key does not lead through a table that has
a header. -/
def within (dotted : Bool) (change : TableKind → Entries → Option Entries) :
    List String → TableKind → Entries → Option Entries
  | [], kind, entries => change kind entries
  | key :: keys, _, entries =>
    match Assoc.get? key entries with
    | none =>
      let kind : TableKind := if dotted then .dotted else .implied
      (within dotted change keys kind []).map fun es => Assoc.put key (.table kind es) entries
    | some (.table kind es) =>
      if kind = .inlined ∨ (dotted = true ∧ kind = .header) then none
      else
        (within dotted change keys kind es).map fun es =>
          Assoc.put key (.table kind es) entries
    | some (.array true items) =>
      match items.getLast? with
      | some (.table kind es) =>
        (within dotted change keys kind es).map fun es =>
          Assoc.put key (.array true (items.dropLast ++ [.table kind es])) entries
      | _ => none
    | some _ => none

/-- Adds a new key at the end of a dotted path. -/
def addPair (path : List String) (key : String) (v : Value) (kind : TableKind)
    (entries : Entries) : Option Entries :=
  within true (fun kind es =>
    if decide (kind = .dotted) = path.isEmpty then none
    else if (Assoc.get? key es).isSome then none
    else some (Assoc.put key v es)) path kind entries

/-- Gives a table a header; it must not have one already. -/
def addTable (path : List String) (key : String) (entries : Entries) : Option Entries :=
  within false (fun _ es =>
    match Assoc.get? key es with
    | none => some (Assoc.put key (.table .header []) es)
    | some (.table .implied inner) => some (Assoc.put key (.table .header inner) es)
    | some _ => none) path .header entries

/-- Adds an empty table to an array of tables. -/
def addElement (path : List String) (key : String) (entries : Entries) : Option Entries :=
  within false (fun _ es =>
    match Assoc.get? key es with
    | none => some (Assoc.put key (.array true [.table .header []]) es)
    | some (.array true items) =>
      some (Assoc.put key (.array true (items ++ [.table .header []])) es)
    | some _ => none) path .header entries

end Fanout.Document
