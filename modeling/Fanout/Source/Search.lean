/-
  Fanout.Source.Search
  ────────────────────
  **Finding sources.**

  An argument that is a directory stands for all sources below it, in the
  order of their names from level to level; any other argument stands for
  itself.  Links are followed; a link to a directory that is being searched
  already is a failure.
-/
import Fanout.Effect

namespace Fanout

open Fanout.Files Fanout.Log

/-! ## §1. Searching a directory. -/

/-- Why a directory cannot be searched. -/
inductive SearchFault where
  /-- A path leads nowhere. -/
  | unreachable (path : Path) (cause : Fault)
  /-- A link leads back to a directory that is being searched. -/
  | loop (link directory : Path)
  deriving DecidableEq

/-- The wording of a fault. -/
def SearchFault.message : SearchFault → String
  | .unreachable path cause => "IO error for operation on " ++ path.text ++ ": " ++ cause.message
  | .loop link directory =>
    "File system loop found: " ++ link.text ++ " points to an ancestor " ++ directory.text

/-- A directory that is being searched. -/
structure Opened where
  /-- Where it is. -/
  place : Location
  /-- The path by which it was reached. -/
  path : Path

/-- What is at the end of a link, which must not be a directory that is being searched. -/
def followLink (files : FileSystem) (opened : List Opened) (p : Path) :
    Except SearchFault (Location × Node) :=
  match files.find true p with
  | .error cause => .error (.unreachable p cause)
  | .ok (place, .directory) =>
    match opened.find? fun o => o.place = place with
    | some o => .error (.loop p o.path)
    | none => .ok (place, .directory)
  | .ok other => .ok other

/-- The results for the members of a list one after the other, up to the first failure. -/
def collect {ε α β : Type} (f : α → Except ε (List β)) : List α → Except ε (List β)
  | [] => .ok []
  | a :: as =>
    match f a with
    | .error e => .error e
    | .ok bs => (collect f as).map (bs ++ ·)

/-- The files at and below a path that leads to a node, down to a depth. -/
def filesBelow (files : FileSystem) :
    Nat → List Opened → Path → Location → Node → Except SearchFault (List Path)
  | 0, _, _, _, _ => .ok []
  | depth + 1, opened, p, place, node =>
    match node with
    | .file _ => .ok [p]
    | .directory => searchIn depth opened p place
    | .link _ =>
      match followLink files opened p with
      | .error e => .error e
      | .ok (place, .directory) => searchIn depth opened p place
      | .ok _ => .ok [p]
where
  /-- The files below a directory. -/
  searchIn (depth : Nat) (opened : List Opened) (p : Path) (place : Location) :
      Except SearchFault (List Path) :=
    collect (fun child =>
      filesBelow files depth (⟨place, p⟩ :: opened) (p.join child.1.toList)
        (place ++ [child.1]) child.2) (files.children place)

/-- A depth that no search gets to: on the way down a directory is met again only behind a
link, and a link leads to no directory on the way. -/
def depthLimit (files : FileSystem) : Nat := (files.nodes.length + 1) * (files.nodes.length + 2)

/-- All files at and below a path. -/
def allFiles (files : FileSystem) (root : Path) : Except SearchFault (List Path) :=
  match files.find false root with
  | .error cause => .error (.unreachable root cause)
  | .ok (place, node) => filesBelow files (depthLimit files) [] root place node

/-! ## §2. Sources. -/

/-- Is the path that of a source? -/
def isSourcePath (extension : String) (p : Path) : Bool :=
  p.extension? == some extension.toList

/-- Why arguments cannot be turned into sources. -/
inductive DiscoveryFault where
  /-- There is nothing at a path. -/
  | missing (path : Path)
  /-- A directory cannot be searched. -/
  | unsearchable (root : Path) (cause : SearchFault)
  deriving DecidableEq

/-- The wording of a fault. -/
def DiscoveryFault.message : DiscoveryFault → String
  | .missing path => "source path does not exist: " ++ path.text
  | .unsearchable root cause =>
    "failed to read source directory " ++ root.text ++ " : " ++ cause.message

/-- The name of a kind of fault. -/
def DiscoveryFault.category : DiscoveryFault → String
  | .missing _ => "Missing"
  | .unsearchable _ _ => "WalkError"

/-- The sources at and below a path, in order. -/
def discoverSources (files : FileSystem) (extension : String) (root : Path) :
    Effect DiscoveryFault (List Path) :=
  match allFiles files root with
  | .error cause => .failed files (.unsearchable root cause)
  | .ok found =>
    let sources := found.filter (isSourcePath extension)
    ⟨files, if sources.isEmpty then [.noSources root extension] else [], .ok sources⟩

/-- The sources that an argument stands for. -/
def sourcesOf (files : FileSystem) (extension : String) (arg : Path) :
    Effect DiscoveryFault (List Path) :=
  if files.isDirectory arg then discoverSources files extension arg
  else if files.hasNode arg then .done files [arg]
  else .failed files (.missing arg)

/-- The sources that arguments stand for, in order. -/
def expandSources (files : FileSystem) (extension : String) :
    List Path → Effect DiscoveryFault (List Path)
  | [] => .done files []
  | arg :: rest =>
    (sourcesOf files extension arg).andThen fun files found =>
      (expandSources files extension rest).andThen fun files more =>
        .done files (found ++ more)

end Fanout
