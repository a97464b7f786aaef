/-
  Fanout.Source.Declaration
  ─────────────────────────
  **What a source declares.**

  A source declares variables, each with the list of the values it takes,
  and derived names.
-/
import Fanout.Derived

namespace Fanout

open Fanout.Number

/-! ## §1. Variables. -/

/-- How the values of a variable are read. -/
inductive VariableKind where
  /-- As an integer, else as a float, else as a text. -/
  | typed
  /-- As a text between double quotes. -/
  | quoted
  deriving DecidableEq, Repr

/-- The word that begins the declaration of a variable. -/
def VariableKind.word : VariableKind → String
  | .typed => "VAR"
  | .quoted => "SVAR"

/-- A variable. -/
structure Variable where
  /-- The name. -/
  name : String
  /-- How its values are read. -/
  kind : VariableKind
  /-- The values, in order. -/
  values : List Value
  /-- The line of the declaration, from 1. -/
  line : Nat
  deriving DecidableEq

/-- The value that a text is for a variable. -/
def readValue (kind : VariableKind) (text : String) : Value :=
  match kind with
  | .quoted => .str (quoted text)
  | .typed =>
    match readWord? text.toList with
    | some n => .int n
    | none =>
      match readFloat? text.toList with
      | some x => .float x
      | none => .str text

/-! ## §2. Declarations. -/

/-- A declaration. -/
inductive Declaration where
  /-- Of a variable. -/
  | domain (v : Variable)
  /-- Of a derived name. -/
  | derived (d : Derived)
  deriving DecidableEq

namespace Declaration

/-- The name that is declared. -/
def name : Declaration → String
  | domain v => v.name
  | derived d => d.name

/-- The line of a declaration. -/
def line : Declaration → Nat
  | domain v => v.line
  | derived d => d.line

/-- The variable that is declared, if one is. -/
def asVariable? : Declaration → Option Variable
  | domain v => some v
  | derived _ => none

/-- The derived name that is declared, if one is. -/
def asDerived? : Declaration → Option Derived
  | domain _ => none
  | derived d => some d

end Declaration

end Fanout
