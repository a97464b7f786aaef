/-
  Fanout.Main
  ───────────
  **The command.**

  Everything the command decides is in `runCommand`, a function from file
  systems to file systems.  This module surveys the part of the disk that
  the arguments lead to, calls it, and writes what has changed.
-/
import Fanout.Run

namespace Fanout

open Fanout.Files Fanout.Calendar

/-! ## §1. The disk. -/

/-- A place as an absolute path. -/
def absolute (place : Location) : String := "/" ++ "/".intercalate place

/-- The entry of the disk at a place. -/
def diskEntry (place : Location) : IO.FS.DirEntry :=
  IO.FS.DirEntry.mk (absolute place.dropLast) (place.getLast?.getD "")

/-- The place that an absolute path without links names. -/
def placeOf (path : String) : Location :=
  (Path.mk path).steps.filterMap fun
    | .named name => some name
    | _ => none

/-- Where a link of the disk leads; one that leads nowhere is kept as a link to a name that
no file can have. -/
def linkTarget (place : Location) : IO Path := do
  try
    return ⟨(← IO.FS.realPath (diskEntry place).path).toString⟩
  catch _ => return ⟨"\x00"⟩

/-- A file whose contents are not read; no file holds what it is taken to hold, so that
whatever is written in its place counts as a change. -/
def unread : Node := .file (.binary [])

/-- What is at a place of the disk; the contents of a file are read if `wanted` says so. -/
def diskNode? (wanted : String → Bool) (place : Location) : IO (Option Node) := do
  let path := (diskEntry place).path
  try
    match (← path.symlinkMetadata).type with
    | .dir => return some .directory
    | .symlink => return some (.link (← linkTarget place))
    | .file =>
      if wanted (place.getLast?.getD "") then
        return some (.file (.ofBytes (← IO.FS.readBinFile path)))
      else return some unread
    | .other => return some unread
  catch _ => return none

/-- The names in a directory of the disk. -/
def diskNames (place : Location) : IO (List String) := do
  try
    let entries ← (diskEntry place).path.readDir
    return entries.toList.map fun e => e.fileName
  catch _ => return []

/-! ## §2. Surveying. -/

/-- What is known of the disk. -/
structure Survey where
  /-- The files. -/
  files : FileSystem
  /-- The directories all of whose entries are known. -/
  listed : List Location

/-- Adds a node. -/
def Survey.put (s : Survey) (place : Location) (node : Node) : Survey :=
  { s with files := s.files.put place node }

/-- Adds the directories above a place. -/
def Survey.putAbove (s : Survey) (place : Location) : Survey :=
  (List.range place.length).foldl (fun s n =>
    if (s.files.node? (place.take n)).isSome then s else s.put (place.take n) .directory) s

/-- What is wanted behind a link: everything if the link is. -/
def behindLink (wanted : String → Bool) (link : Location) : String → Bool :=
  if wanted (link.getLast?.getD "") then fun _ => true else wanted

/-- Adds what is at a place of the disk; a link is followed to where it leads, and a
directory is searched if `deep` says so. -/
partial def survey (wanted : String → Bool) (deep : Bool) (s : Survey) (place : Location) :
    IO Survey := do
  match ← diskNode? wanted place with
  | none => return s
  | some node =>
    let s := s.put place node
    match node with
    | .link target =>
      let there := placeOf target.text
      survey (behindLink wanted place) deep (s.putAbove there) there
    | .directory =>
      if !deep || s.listed.contains place then return s
      let s := { s with listed := place :: s.listed }
      (← diskNames place).foldlM (fun s name => survey wanted deep s (place ++ [name])) s
    | .file _ => return s

/-- Adds the entries of a directory of which nothing is known, without their contents. -/
def surveyBeside (s : Survey) (here : Location) : IO Survey := do
  (← diskNames here).foldlM (fun s name =>
    if (s.files.node? (here ++ [name])).isSome then return s
    else survey (fun _ => false) false s (here ++ [name])) s

/-- Adds what lies along a path, and what lies beside the place it leads to. -/
partial def surveyPath (wanted : String → Bool) (s : Survey) (here : Location) :
    List Path.Step → IO Survey
  | [] => survey wanted true s here
  | .stay :: rest => surveyPath wanted s here rest
  | .up :: rest => surveyPath wanted s here.dropLast rest
  | .named name :: rest => do
    let place := here ++ [name]
    let s ← if rest.all (· == .stay) then surveyBeside s here else pure s
    match ← diskNode? wanted place with
    | some (.link target) =>
      let there := placeOf target.text
      let s := (s.put place (.link target)).putAbove there
      surveyPath (behindLink wanted place) s there rest
    | some .directory => surveyPath wanted (s.put place .directory) place rest
    | some node => return s.put place node
    | none => return s

/-- Adds what a path from the current directory leads to. -/
def surveyFrom (wanted : String → Bool) (s : Survey) (p : Path) : IO Survey :=
  surveyPath wanted s (FileSystem.startOf s.files.current p) p.steps

/-- The part of the disk that a request is about. -/
def surveyRequest (env : Settings.Environment) (here : Location) : Request → IO FileSystem
  | .run settings sources => do
    let s : Survey := ⟨.empty here, []⟩
    let s ← settings.elim (pure s) (surveyFrom (fun _ => true) s)
    match Settings.load env s.files settings with
    | .error _ => return s.files
    | .ok known =>
      let s ← known.log.file.elim (pure s) (surveyFrom (fun _ => false) s)
      let named := (settings.toList ++ sources).map Path.fileName
      let wanted := fun name =>
        named.contains name || isSourcePath known.sourceExtension ⟨name⟩
      return (← sources.foldlM (surveyFrom wanted) ⟨s.files, []⟩).files
  | _ => return .empty here

/-! ## §3. The command. -/

/-- The variables of the environment. -/
def environment : IO Settings.Environment := do
  let text :=
    match Content.ofBytes (← IO.FS.readBinFile "/proc/self/environ") with
    | .text s => s
    | .binary _ => ""
  return (Text.splitAt '\x00' text.toList).filterMap fun cs =>
    (Text.splitFirst? '=' cs).map fun (name, value) => (String.ofList name, String.ofList value)

/-- The time at which the command began, as a stamp. -/
def stamp : IO String := do
  let began := (← (IO.FS.DirEntry.mk "/proc" "self").path.metadata).modified
  let t := DateTime.onDay 0 began.sec (began.nsec.toNat / 1000 * 1000)
  return ((t.map fun t => String.ofList (dateTimeText 'T' t)).getD "") ++ "Z"

/-- Writes the files that a run has changed. -/
def writeChanges (before after : FileSystem) : IO Unit :=
  after.nodes.forM fun (place, node) =>
    match node with
    | .file c =>
      if before.node? place = some node then pure ()
      else IO.FS.writeBinFile (absolute place) c.bytes
    | _ => pure ()

end Fanout

open Fanout in
/-- Runs the command with its arguments. -/
def main (args : List String) : IO UInt32 := do
  let env ← environment
  let here := placeOf (← IO.FS.realPath ".").toString
  let files ← surveyRequest env here (.ofArguments args)
  let finished := runCommand env files (← stamp) args
  writeChanges files finished.files
  (← IO.getStdout).putStr finished.output
  (← IO.getStderr).putStr finished.diagnostics
  return finished.code
