/-
  Fanout.Template.Placeholder
  ───────────────────────────
  **Filling the placeholders of a template.**

  A dollar sign begins a piece of its own: a name, a name in braces, or a
  second dollar sign, which stands for one.  `pieces` cuts a template into
  such pieces and single characters without losing any; `substitute` puts
  the text of the bound value for every name and stops at the first piece
  that cannot be filled.
-/
import Fanout.Bindings
import Fanout.Expr.Token.Scan
import Fanout.Text.Place

namespace Fanout.Template

open Fanout.Text Fanout.Expr

/-! ## §1. Pieces. -/

/-- A piece of a template. -/
inductive Piece where
  /-- A character that stands for itself. -/
  | plain (c : Char)
  /-- Two dollar signs, which stand for one. -/
  | dollar
  /-- A name, with or without braces. -/
  | reference (braced : Bool) (name : List Char)
  /-- A dollar sign that begins none of the above. -/
  | stray
  deriving DecidableEq

/-- A piece as it is written. -/
def Piece.source : Piece → List Char
  | .plain c => [c]
  | .dollar => ['$', '$']
  | .reference false name => '$' :: name
  | .reference true name => '$' :: '\x7b' :: (name ++ ['\x7d'])
  | .stray => ['$']

/-- The name that a text begins with, if it begins with one. -/
def leadingName? (cs : List Char) : Option (List Char) :=
  let name := cs.takeWhile isNameChar
  if isName name then some name else none

/-- The name that a text begins with, if a closing brace follows it. -/
def leadingBracedName? (cs : List Char) : Option (List Char) :=
  match leadingName? cs with
  | some name => if (cs.drop name.length).head? = some '\x7d' then some name else none
  | none => none

/-- The piece that a dollar sign begins before the rest of a template. -/
def dollarPiece : List Char → Piece
  | '$' :: _ => .dollar
  | '\x7b' :: rest =>
    match leadingBracedName? rest with
    | some name => .reference true name
    | none => .stray
  | rest =>
    match leadingName? rest with
    | some name => .reference false name
    | none => .stray

/-- The first piece of a template that begins with `c`. -/
def firstPiece (c : Char) (cs : List Char) : Piece :=
  if c = '$' then dollarPiece cs else .plain c

/-- The pieces of a template and where each begins. -/
def pieces (place : Place) : List Char → List (Place × Piece)
  | [] => []
  | c :: cs =>
    let piece := firstPiece c cs
    (place, piece) :: pieces (place.afterAll piece.source) (cs.drop (piece.source.length - 1))
termination_by cs => cs.length
decreasing_by simp only [List.length_drop, List.length_cons]; omega

/-! ## §2. Filling. -/

/-- Why a template cannot be filled. -/
inductive RenderError where
  /-- Nothing is bound to a name. -/
  | undefinedName (name : String) (place : Place)
  /-- A dollar sign begins no placeholder. -/
  | invalidPlaceholder (place : Place)
  deriving DecidableEq

/-- A place in a diagnostic. -/
def placeText (p : Place) : String :=
  "(line " ++ countText p.line ++ ", column " ++ countText p.column ++ ")"

/-- The wording of a failure. -/
def RenderError.message : RenderError → String
  | .undefinedName name p => "placeholder '$" ++ name ++ "' is not defined " ++ placeText p
  | .invalidPlaceholder p => "invalid placeholder in template " ++ placeText p

/-- The name of a kind of failure. -/
def RenderError.category : RenderError → String
  | .undefinedName _ _ => "UndefinedName"
  | .invalidPlaceholder _ => "InvalidPlaceholder"

/-- What a piece becomes. -/
def Piece.fill (b : Bindings) (place : Place) : Piece → Except RenderError (List Char)
  | .plain c => .ok [c]
  | .dollar => .ok ['$']
  | .reference _ name =>
    match b.get? (String.ofList name) with
    | some v => .ok v.text.toList
    | none => .error (.undefinedName (String.ofList name) place)
  | .stray => .error (.invalidPlaceholder place)

/-- What the pieces of a template become. -/
def fillAll (b : Bindings) : List (Place × Piece) → Except RenderError (List Char)
  | [] => .ok []
  | (place, piece) :: rest =>
    match piece.fill b place with
    | .error e => .error e
    | .ok text => (fillAll b rest).map (text ++ ·)

/-- A template whose first line is the line `firstLine` of its file, with its placeholders
filled. -/
def substitute (template : String) (firstLine : Nat) (b : Bindings) :
    Except RenderError String :=
  (fillAll b (pieces ⟨firstLine, 1⟩ template.toList)).map String.ofList

end Fanout.Template
