/-
  Fanout.Path
  ───────────
  **Paths as they are written.**

  A path is a text of names between slashes.  It is kept and shown as it is
  written; its last name, the path of its neighbours and the way it leads
  are read off it.  Empty names and single dots lead nowhere and do not
  count, but a relative path that begins with a single dot keeps it.
-/
import Fanout.Text.Split

namespace Fanout

open Fanout.Text

/-- A path. -/
structure Path where
  /-- The path as it is written. -/
  text : String
  deriving DecidableEq, Repr

namespace Path

/-! ## §1. Names. -/

/-- Does the path start from the root? -/
def isAbsolute (p : Path) : Bool := p.text.toList.head? == some '/'

/-- A name that leads nowhere. -/
def isInert (name : List Char) : Bool := name.isEmpty || name == ['.']

/-- What a path starts from. -/
inductive Start where
  /-- The root. -/
  | root
  /-- The current directory, written as a dot. -/
  | dot
  /-- The current directory, not written. -/
  | current
  deriving DecidableEq, Repr

/-- What a path starts from, and the names behind it. -/
def parts (p : Path) : Start × List (List Char) :=
  match splitAt '/' p.text.toList with
  | [] => (.current, [])
  | name :: names =>
    if p.isAbsolute then (.root, names)
    else if name = ['.'] then (.dot, names)
    else (.current, name :: names)

/-- The names of a path from the last to the first, beginning with one that counts. -/
def namesBackwards (p : Path) : List (List Char) := p.parts.2.reverse.dropWhile isInert

/-- The last name of a path, unless it leads upwards. -/
def fileName? (p : Path) : Option (List Char) :=
  match p.namesBackwards with
  | [] => none
  | name :: _ => if name = ['.', '.'] then none else some name

/-- The name of the file that a path leads to: its last name, else all of it. -/
def fileName (p : Path) : String :=
  match p.fileName? with
  | some name => String.ofList name
  | none => p.text

/-! ## §2. Stem and extension. -/

/-- A name cut at its last dot, unless there is no dot but at its start. -/
def cutName (name : List Char) : List Char × Option (List Char) :=
  match splitLast? '.' name with
  | some (c :: before, behind) => (c :: before, some behind)
  | _ => (name, none)

/-- The last name of a path without its extension. -/
def stem (p : Path) : List Char :=
  match p.fileName? with
  | some name => (cutName name).1
  | none => []

/-- The extension of the last name of a path. -/
def extension? (p : Path) : Option (List Char) := p.fileName?.bind fun name => (cutName name).2

/-! ## §3. Neighbours. -/

/-- Names between slashes. -/
def slashed (names : List (List Char)) : List Char := ['/'].intercalate names

/-- A path from its start and names. -/
def ofParts : Start → List (List Char) → Path
  | .root, names => ⟨String.ofList ('/' :: slashed names)⟩
  | .dot, [] => ⟨"."⟩
  | .dot, names => ⟨String.ofList ('.' :: '/' :: slashed names)⟩
  | .current, names => ⟨String.ofList (slashed names)⟩

/-- The path without its last name. -/
def parent (p : Path) : Path :=
  ofParts p.parts.1 (p.namesBackwards.drop 1 |>.dropWhile isInert).reverse

/-- The path one name further down. -/
def join (p : Path) (name : List Char) : Path :=
  let cs := p.text.toList
  if cs.isEmpty || cs.getLast? == some '/' then ⟨String.ofList (cs ++ name)⟩
  else ⟨String.ofList (cs ++ '/' :: name)⟩

/-- The path of a file beside the one that the path leads to; a path without a last name is
taken for the directory. -/
def withFileName (p : Path) (name : List Char) : Path :=
  match p.fileName? with
  | some _ => p.parent.join name
  | none => p.join name

/-! ## §4. The way a path leads. -/

/-- A step along a path. -/
inductive Step where
  /-- To the directory itself. -/
  | stay
  /-- To the directory above. -/
  | up
  /-- To what has the name. -/
  | named (name : String)
  deriving DecidableEq, Repr

/-- Does the path end with a slash? -/
def endsWithSlash (p : Path) : Bool := p.text.toList.getLast? == some '/'

/-- The step that a name is; an empty name is none. -/
def stepOf? (name : List Char) : Option Step :=
  if name.isEmpty then none
  else if name = ['.'] then some .stay
  else if name = ['.', '.'] then some .up
  else some (.named (String.ofList name))

/-- The steps of a path; a slash at its end asks for a directory, as a step that stays
does. -/
def steps (p : Path) : List Step :=
  (splitAt '/' p.text.toList).filterMap stepOf? ++ if p.endsWithSlash then [.stay] else []

end Path

end Fanout
