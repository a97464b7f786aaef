/-
  Fanout.Output
  ─────────────
  **The files that are generated.**

  The file of a combination lies beside its source and is named for the
  source and the number of the combination.  It begins with a line that
  tells where it comes from.
-/
import Fanout.Files.FileSystem
import Fanout.Expr.Failure

namespace Fanout

open Fanout.Files Fanout.Number

/-- How generated files are named and begun. -/
structure OutputSettings where
  /-- The extension, with its dot. -/
  extension : String
  /-- What begins a comment. -/
  commentMark : String
  deriving DecidableEq, Repr

namespace OutputSettings

/-- The settings that hold when nothing else is said. -/
def standard : OutputSettings := ⟨".crank", ";"⟩

/-- The name of this program in the first line of a file. -/
def generatorName : String := "crankgen"

/-- The path of the file of a combination. -/
def pathFor (o : OutputSettings) (source : Path) (index : Nat) : Path :=
  source.withFileName
    (source.stem ++ '_' :: digitsOf index ++ "_gen".toList ++ o.extension.toList)

/-- The first line of the files generated from a source. -/
def headline (o : OutputSettings) (source : Path) : String :=
  o.commentMark ++ " GENERATED BY " ++ generatorName ++ " FROM " ++ source.fileName ++
    " - DO NOT EDIT\n"

/-- What the file of a combination holds. -/
def contentFor (o : OutputSettings) (source : Path) (body : String) : Content :=
  .text (o.headline source ++ body)

end OutputSettings

/-- A file that could not be written. -/
structure WriteFault where
  /-- The path of the file. -/
  path : Path
  /-- Why it could not be written. -/
  cause : Fault
  deriving DecidableEq

/-- The wording of a fault. -/
def WriteFault.message (f : WriteFault) : String :=
  "failed to write generated file " ++ f.path.text ++ ": " ++ f.cause.message

/-- Writes the file of a combination. -/
def OutputSettings.write (o : OutputSettings) (files : FileSystem) (source : Path)
    (index : Nat) (body : String) : Except WriteFault FileSystem :=
  match files.write (o.pathFor source index) (o.contentFor source body) with
  | .ok written => .ok written
  | .error cause => .error ⟨o.pathFor source index, cause⟩

end Fanout
