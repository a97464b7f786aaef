/-
  Fanout.Source.Read
  ──────────────────
  **Sources.**

  A source is a header and a template.  It knows the path it was read from,
  which names it in diagnostics and names the files generated from it.
-/
import Fanout.Source.Header
import Fanout.Files.FileSystem

namespace Fanout

open Fanout.Text Fanout.Expr Fanout.Source

/-- A source. -/
structure Source where
  /-- The path it was read from. -/
  path : Path
  /-- What it declares, in order. -/
  declarations : List Declaration
  /-- The text of the template. -/
  template : String
  /-- The number of the first line of the template. -/
  templateLine : Nat
  deriving DecidableEq

namespace Source

/-- The variables, in the order of their declarations. -/
def vars (s : Source) : List Variable := s.declarations.filterMap Declaration.asVariable?

/-- The derived names, in the order of their declarations. -/
def derived (s : Source) : List Derived := s.declarations.filterMap Declaration.asDerived?

/-- Why a source cannot be used. -/
inductive Fault where
  /-- The file cannot be read. -/
  | unreadable (path : Path) (cause : Files.Fault)
  /-- A line of its header is wrong. -/
  | line (path : Path) (number : Nat) (fault : LineFault)
  /-- The mark of the template is missing. -/
  | missingTemplate (path : Path)
  deriving DecidableEq

/-- The wording of a fault. -/
def Fault.message : Fault → String
  | .unreadable path cause => "failed to read source " ++ path.text ++ ": " ++ cause.message
  | .line path number fault =>
    path.text ++ ":" ++ countText number ++ ": " ++ fault.message
  | .missingTemplate path => path.text ++ ": no BEGIN_TEMPLATE line found"

/-- The name of a kind of fault. -/
def Fault.category : Fault → String
  | .unreadable _ _ => "Io"
  | .line _ _ (.missingSeparator _) => "MissingSeparator"
  | .line _ _ (.missingName _) => "MissingName"
  | .line _ _ (.invalidName _) => "InvalidName"
  | .line _ _ (.duplicate _ _) => "Duplicate"
  | .missingTemplate _ => "MissingTemplate"

/-- A fault of a header in the file at a path. -/
def Fault.ofHeader (path : Path) : HeaderFault → Fault
  | .line number fault => .line path number fault
  | .missingTemplate => .missingTemplate path

/-- Reads a text as the source at a path. -/
def ofText (path : Path) (text : String) : Except Fault Source :=
  match readHeader 1 [] (lines text.toList) with
  | .error fault => .error (.ofHeader path fault)
  | .ok h =>
    .ok ⟨path, h.declarations, String.ofList h.template.flatten, h.templateLine⟩

/-- Reads the source that a file holds. -/
def load (files : Files.FileSystem) (path : Path) : Except Fault Source :=
  match files.readText path with
  | .error cause => .error (.unreadable path cause)
  | .ok text => ofText path text

end Source

end Fanout
