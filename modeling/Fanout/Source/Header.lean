/-
  Fanout.Source.Header
  ────────────────────
  **Reading the lines before the template.**

  A line that begins with the word of a directive and a blank or an equals
  sign declares a name; every other line before the mark of the template
  is passed over.  `readHeader` goes from line to line and stops at the
  first line that is wrong.
-/
import Fanout.Text.Split
import Fanout.Source.Declaration

namespace Fanout.Source

open Fanout.Text Fanout.Expr

/-! ## §1. Directives. -/

/-- The directives. -/
inductive Directive where
  /-- A variable is declared. -/
  | domain (kind : VariableKind)
  /-- A derived name is declared. -/
  | derived
  deriving DecidableEq, Repr

/-- The word that begins a directive. -/
def Directive.word : Directive → String
  | .domain kind => kind.word
  | .derived => "LAMBDA"

/-- All directives. -/
def Directive.all : List Directive := [.domain .typed, .domain .quoted, .derived]

/-- Does a line begin with the word of a directive and a blank or an equals sign? -/
def Directive.begins (d : Directive) (line : List Char) : Bool :=
  d.word.toList.isPrefixOf line &&
    ((line.drop d.word.length).head?.any fun c => isBlank c || c == '=')

/-- The directive that a line is, if it is one. -/
def directive? (line : List Char) : Option Directive :=
  Directive.all.find? fun d => d.begins line

/-- The text of the line before the template. -/
def mark : String := "BEGIN_TEMPLATE"

/-- Is the line the mark of the template?  Blanks around it do not count. -/
def isMark (line : List Char) : Bool := trim line == mark.toList

/-! ## §2. Faults. -/

/-- What is wrong with a directive. -/
inductive LineFault where
  /-- There is no equals sign. -/
  | missingSeparator (d : Directive)
  /-- There is nothing before the equals sign. -/
  | missingName (d : Directive)
  /-- What stands before the equals sign is no name. -/
  | invalidName (name : String)
  /-- The name is declared on an earlier line. -/
  | duplicate (name : String) (first : Nat)
  deriving DecidableEq

/-- The wording of a fault. -/
def LineFault.message : LineFault → String
  | .missingSeparator d => d.word ++ " directive is missing '=' between name and values"
  | .missingName d => d.word ++ " directive does not declare a name"
  | .invalidName name => "'" ++ name ++ "' is not a valid name"
  | .duplicate name first =>
    "'" ++ name ++ "' is already declared on line " ++ countText first

/-- What is wrong with a header. -/
inductive HeaderFault where
  /-- A line is wrong. -/
  | line (number : Nat) (fault : LineFault)
  /-- The mark of the template is missing. -/
  | missingTemplate
  deriving DecidableEq

/-! ## §3. Lines. -/

/-- The declaration of a name with what stands behind the equals sign. -/
def declare (d : Directive) (name : String) (right : List Char) (number : Nat) : Declaration :=
  match d with
  | .domain kind =>
    let items := (splitAt ',' right).map fun item => String.ofList (trim item)
    .domain ⟨name, kind, items.map (readValue kind), number⟩
  | .derived => .derived ⟨name, String.ofList right, number⟩

/-- The line that declares a name. -/
def lineOf? (declared : List Declaration) (name : String) : Option Nat :=
  (declared.find? fun d => d.name == name).map Declaration.line

/-- The declaration on a line that is a directive, after earlier declarations. -/
def readDirective (declared : List Declaration) (d : Directive) (line : List Char)
    (number : Nat) : Except LineFault Declaration :=
  match splitFirst? '=' line with
  | none => .error (.missingSeparator d)
  | some (left, right) =>
    let name := trim (left.drop d.word.length)
    if name.isEmpty then .error (.missingName d)
    else if !isName name then .error (.invalidName (String.ofList name))
    else
      match lineOf? declared (String.ofList name) with
      | some first => .error (.duplicate (String.ofList name) first)
      | none => .ok (declare d (String.ofList name) (trim right) number)

/-! ## §4. Headers. -/

/-- A source cut into its declarations and its template. -/
structure Header where
  /-- The declarations, in order. -/
  declarations : List Declaration
  /-- The number of the first line of the template. -/
  templateLine : Nat
  /-- The lines of the template. -/
  template : List (List Char)

/-- Reads lines from the one with the number `number` on, after earlier declarations. -/
def readHeader (number : Nat) (declared : List Declaration) :
    List (List Char) → Except HeaderFault Header
  | [] => .error .missingTemplate
  | line :: rest =>
    if isMark line then .ok ⟨declared, number + 1, rest⟩
    else
      match directive? line with
      | none => readHeader (number + 1) declared rest
      | some d =>
        match readDirective declared d line number with
        | .error fault => .error (.line number fault)
        | .ok decl => readHeader (number + 1) (declared ++ [decl]) rest

end Fanout.Source
