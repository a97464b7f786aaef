/-
  Fanout.Files.FileSystem
  ───────────────────────
  **Files, directories and links.**

  A file system gives a node to places; a place is the list of names that
  lead to it from the root.  `FileSystem.resolve` goes along a path, through
  links, to the place it leads to; reading and writing go by it.  A write
  either puts the whole of a new content at one place or changes nothing.
-/
import Fanout.Assoc
import Fanout.Path
import Fanout.Text.Utf8
import Fanout.Files.Content
import Fanout.Files.Fault

namespace Fanout.Files

open Fanout.Text

/-! ## §1. Places and nodes. -/

/-- A place: the names that lead to it from the root. -/
abbrev Location := List String

/-- What can be at a place. -/
inductive Node where
  /-- A file. -/
  | file (content : Content)
  /-- A directory. -/
  | directory
  /-- A link to the path that it holds. -/
  | link (target : Path)
  deriving DecidableEq

/-- A file system and the directory that relative paths start from. -/
structure FileSystem where
  /-- The nodes below the root. -/
  nodes : List (Location × Node)
  /-- The current directory. -/
  current : Location
  deriving DecidableEq

namespace FileSystem

/-- A file system with nothing but the way to its current directory. -/
def empty (current : Location) : FileSystem :=
  ⟨(List.range current.length).map fun n => (current.take (n + 1), .directory), current⟩

/-- What is at a place; the root is a directory. -/
def node? (fs : FileSystem) (place : Location) : Option Node :=
  if place = [] then some .directory else Assoc.get? place fs.nodes

/-- The file system with a node put at a place. -/
def put (fs : FileSystem) (place : Location) (node : Node) : FileSystem :=
  { fs with nodes := Assoc.put place node fs.nodes }

/-- The file system with nothing at a place. -/
def erase (fs : FileSystem) (place : Location) : FileSystem :=
  { fs with nodes := Assoc.erase place fs.nodes }

/-- Putting a node changes its place and no other. -/
theorem node?_put (fs : FileSystem) {place : Location} (h : place ≠ []) (other : Location)
    (node : Node) :
    (fs.put place node).node? other = if place = other then some node else fs.node? other := by
  by_cases ho : other = []
  · have hne : ¬ place = other := fun e => h (e.trans ho)
    simp only [node?, if_pos ho, if_neg hne]
  · simp only [node?, if_neg ho]
    exact Assoc.get?_put place other node fs.nodes

/-! ## §2. Going along a path. -/

/-- Where a path leads. -/
inductive Target where
  /-- To a node. -/
  | found (place : Location) (node : Node)
  /-- To a name that is free in a directory. -/
  | free (place : Location)
  deriving DecidableEq

/-- The greatest number of links on one way. -/
def maxLinks : Nat := 40

/-- The greatest number of bytes of a name. -/
def maxName : Nat := 255

/-- The greatest number of bytes of a path. -/
def maxPath : Nat := 4095

/-- The place where a path starts. -/
def startOf (here : Location) (p : Path) : Location := if p.isAbsolute then [] else here

/-- Goes along steps from a directory through at most `links` links; a link at the end is
followed if `follow` says so. -/
def walk (fs : FileSystem) (follow : Bool) (links : Nat) (here : Location) :
    List Path.Step → Except Fault Target
  | [] => .ok (.found here .directory)
  | .stay :: rest => walk fs follow links here rest
  | .up :: rest => walk fs follow links here.dropLast rest
  | .named name :: rest =>
    let place := here ++ [name]
    if maxName < byteLength name.toList then .error .nameTooLong
    else
      match fs.node? place with
      | none => if rest.isEmpty then .ok (.free place) else .error .notFound
      | some .directory => walk fs follow links place rest
      | some (.file content) =>
        if rest.isEmpty then .ok (.found place (.file content)) else .error .notDirectory
      | some (.link target) =>
        if rest.isEmpty && !follow then .ok (.found place (.link target))
        else
          match links with
          | 0 => .error .tooManyLinks
          | left + 1 => walk fs follow left (startOf here target) (target.steps ++ rest)
termination_by steps => (links, steps.length)

/-- Where a path leads from a directory. -/
def resolveFrom (fs : FileSystem) (follow : Bool) (here : Location) (p : Path) :
    Except Fault Target :=
  if p.text.isEmpty then .error .notFound
  else if p.text.toList.contains '\x00' then .error .nullCharacter
  else if maxPath < byteLength p.text.toList then .error .nameTooLong
  else walk fs follow maxLinks (startOf here p) p.steps

/-- The place and the node that a path leads to. -/
def find (fs : FileSystem) (follow : Bool) (p : Path) : Except Fault (Location × Node) :=
  match fs.resolveFrom follow fs.current p with
  | .error e => .error e
  | .ok (.found place node) => .ok (place, node)
  | .ok (.free _) => .error .notFound

/-! ## §3. Reading. -/

/-- Is there anything at the end of a path? -/
def hasNode (fs : FileSystem) (p : Path) : Bool :=
  match fs.find true p with
  | .ok _ => true
  | .error _ => false

/-- Does a path lead to a directory? -/
def isDirectory (fs : FileSystem) (p : Path) : Bool :=
  match fs.find true p with
  | .ok (_, .directory) => true
  | _ => false

/-- The text of the file that a path leads to. -/
def readText (fs : FileSystem) (p : Path) : Except Fault String :=
  match fs.find true p with
  | .error e => .error e
  | .ok (_, .file (.text s)) => .ok s
  | .ok (_, .file (.binary _)) => .error .notText
  | .ok (_, .directory) => .error .isDirectory
  | .ok (_, .link _) => .error .tooManyLinks

/-- The name by which a place lies in a directory, if it lies there. -/
def nameIn? (directory place : Location) : Option String :=
  match place.getLast? with
  | some name => if place.dropLast = directory then some name else none
  | none => none

/-- The nodes of a directory with their names, in the order of the names. -/
def children (fs : FileSystem) (directory : Location) : List (String × Node) :=
  (fs.nodes.filterMap fun (place, node) => (nameIn? directory place).map fun name =>
    (name, node)).mergeSort fun a b => decide (a.1 ≤ b.1)

/-! ## §4. Writing. -/

/-- The place where a file would be written that a path leads to. -/
def placeToWrite (fs : FileSystem) (p : Path) : Except Fault Location :=
  match fs.resolveFrom true fs.current p with
  | .ok (.free place) => .ok place
  | .ok (.found place (.file _)) => .ok place
  | .ok (.found _ _) => .error .isDirectory
  | .error e =>
    if p.endsWithSlash then
      match fs.resolveFrom true fs.current (p.parent.join ['.']) with
      | .ok (.found _ .directory) => .error .isDirectory
      | _ => .error e
    else .error e

/-- Writes a file: it holds the new content and nothing else. -/
def write (fs : FileSystem) (p : Path) (content : Content) : Except Fault FileSystem :=
  (fs.placeToWrite p).map fun place => fs.put place (.file content)

/-! ## §5. Laying out. -/

/-- Makes the directories that steps lead through. -/
def makeSteps (fs : FileSystem) (here : Location) : List Path.Step → FileSystem
  | [] => fs
  | .stay :: rest => makeSteps fs here rest
  | .up :: rest => makeSteps fs here.dropLast rest
  | .named name :: rest =>
    let place := here ++ [name]
    match fs.walk true maxLinks here [.named name] with
    | .ok (.found found .directory) => makeSteps fs found rest
    | .ok (.free free) => makeSteps (fs.put free .directory) free rest
    | _ => makeSteps fs place rest

/-- Makes a directory and those above it. -/
def makeDirectories (fs : FileSystem) (p : Path) : FileSystem :=
  fs.makeSteps (startOf fs.current p) p.steps

/-- Makes a link at a path that leads to nothing yet. -/
def makeLink (fs : FileSystem) (p target : Path) : FileSystem :=
  match fs.resolveFrom false fs.current p with
  | .ok (.free place) => fs.put place (.link target)
  | _ => fs

/-- Takes away the file or link that a path leads to. -/
def remove (fs : FileSystem) (p : Path) : FileSystem :=
  match fs.find false p with
  | .ok (_, .directory) => fs
  | .ok (place, _) => fs.erase place
  | .error _ => fs

/-- The places below the current directory, relative to it, with their nodes. -/
def below (fs : FileSystem) : List (Location × Node) :=
  fs.nodes.filterMap fun (place, node) =>
    if fs.current.isPrefixOf place && place.length != fs.current.length then
      some (place.drop fs.current.length, node)
    else none

end FileSystem

end Fanout.Files
