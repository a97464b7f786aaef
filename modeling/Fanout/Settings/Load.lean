/-
  Fanout.Settings.Load
  ────────────────────
  **The settings of a run.**

  Settings hold without a file; a file can change them.  It has to carry
  the number of its version, and the files that are generated must not have
  the extension of sources.
-/
import Fanout.Files.FileSystem
import Fanout.Output
import Fanout.Settings.Expand
import Fanout.Document.Read

namespace Fanout

open Fanout.Expr Fanout.Files Fanout.Document

/-! ## §1. Settings. -/

/-- What is logged, and where. -/
structure LogSettings where
  /-- The name of the level for the terminal. -/
  level : String
  /-- The name of the level for the file. -/
  fileLevel : Option String
  /-- The file. -/
  file : Option Path
  deriving DecidableEq, Repr

/-- The settings of a run. -/
structure Settings where
  /-- The file they come from. -/
  source : Option Path
  /-- How generated files are named and begun. -/
  output : OutputSettings
  /-- The extension of sources, without a dot. -/
  sourceExtension : String
  /-- What is logged, and where. -/
  log : LogSettings
  deriving DecidableEq, Repr

namespace Settings

/-- The log settings that hold when nothing else is said. -/
def standardLog : LogSettings := ⟨"warn", none, none⟩

/-- The extension of sources when nothing else is said. -/
def standardExtension : String := "crankgen"

/-- The settings that hold without a file. -/
def standard : Settings := ⟨none, .standard, standardExtension, standardLog⟩

/-- The version that a file of settings has to carry. -/
def version : Nat := 1

/-! ## §2. Faults. -/

/-- What is wrong with the extension of generated files. -/
inductive ExtensionFault where
  /-- It is not a dot with something behind it. -/
  | noDot
  /-- It holds a slash or a backslash. -/
  | separator
  /-- It is that of sources. -/
  | ofSources
  deriving DecidableEq, Repr

/-- The wording of a fault. -/
def ExtensionFault.message : ExtensionFault → String
  | .noDot => "must start with '.'"
  | .separator => "must not contain a path separator"
  | .ofSources => "must differ from the source extension"

/-- Why there are no settings. -/
inductive Fault where
  /-- There is no file at the path. -/
  | notFound (path : Path)
  /-- The file cannot be read. -/
  | unreadable (path : Path) (cause : Files.Fault)
  /-- The file is no document that holds settings. -/
  | malformed (path : Path)
  /-- The file carries another version. -/
  | badVersion (number : Nat)
  /-- The extension of generated files cannot be used. -/
  | badExtension (extension : String) (cause : ExtensionFault)
  /-- A path needs a variable that is missing. -/
  | noHome
  deriving DecidableEq

/-- The wording of a fault. -/
def Fault.message : Fault → String
  | .notFound path => "config file not found at " ++ path.text
  | .unreadable path cause => "failed to read config file " ++ path.text ++ ": " ++ cause.message
  | .malformed path => "failed to parse TOML in " ++ path.text ++ ": malformed document"
  | .badVersion n =>
    "version " ++ countText n ++ " is unsupported (expected " ++ countText version ++ ")"
  | .badExtension extension cause =>
    "invalid output extension '" ++ extension ++ "': " ++ cause.message
  | .noHome => "home directory not available to expand '~'"

/-- The name of a kind of fault. -/
def Fault.category : Fault → String
  | .notFound _ => "NotFound"
  | .unreadable _ _ => "ReadError"
  | .malformed _ => "ParseError"
  | .badVersion _ => "BadVersion"
  | .badExtension _ _ => "BadExtension"
  | .noHome => "NoHome"

/-! ## §3. Sections. -/

/-- The field of a section, by its name in a table or by its position in an array; none if
the section is neither. -/
def field? (part : Option Document.Value) (position : Nat) (name : String) :
    Option (Option Document.Value) :=
  match part with
  | none => some none
  | some (.table _ entries) => some (Assoc.get? name entries)
  | some (.array _ items) => some items[position]?
  | some (.moment _) => some none
  | some _ => none

/-- A field that has to be a text if it is there. -/
def text? (part : Option Document.Value) (position : Nat) (name : String) :
    Option (Option String) :=
  match field? part position name with
  | none => none
  | some none => some none
  | some (some (.text s)) => some (some s)
  | some (some _) => none

/-- The section on generated files. -/
def readOutput (part : Option Document.Value) : Option OutputSettings :=
  match text? part 0 "extension", text? part 1 "comment_prefix" with
  | some extension, some mark =>
    some ⟨extension.getD OutputSettings.standard.extension,
      mark.getD OutputSettings.standard.commentMark⟩
  | _, _ => none

/-- The section on sources. -/
def readSources (part : Option Document.Value) : Option String :=
  (text? part 0 "extension").map fun extension => extension.getD standardExtension

/-- The section on the log. -/
def readLog (part : Option Document.Value) : Option LogSettings :=
  match text? part 0 "level", text? part 1 "file_level", text? part 2 "file" with
  | some level, some fileLevel, some file =>
    some ⟨level.getD standardLog.level, fileLevel, file.map Path.mk⟩
  | _, _, _ => none

/-- The largest number that a version can be. -/
def maxVersion : Nat := 4294967295

/-- The version that a document carries. -/
def readVersion (entries : Entries) : Option Nat :=
  match Assoc.get? "version" entries with
  | some (.integer n) => if 0 ≤ n ∧ n ≤ maxVersion then some n.toNat else none
  | _ => none

/-- The version and the settings that a document holds. -/
def readEntries (source : Path) (entries : Entries) : Option (Nat × Settings) :=
  match readVersion entries, readOutput (Assoc.get? "output" entries),
      readSources (Assoc.get? "sources" entries), readLog (Assoc.get? "logging" entries) with
  | some n, some output, some extension, some log =>
    some (n, ⟨some source, output, extension, log⟩)
  | _, _, _, _ => none

/-! ## §4. Loading. -/

/-- What is wrong with the extension of generated files beside that of sources. -/
def extensionFault? (extension sourceExtension : String) : Option ExtensionFault :=
  match extension.toList with
  | '.' :: c :: cs =>
    if (c :: cs).any fun c => c == '/' || c == '\\' then some .separator
    else if c :: cs = sourceExtension.toList then some .ofSources
    else none
  | _ => some .noDot

/-- The settings with the path of the log file expanded. -/
def expandLog (env : Environment) (s : Settings) : Except Fault Settings :=
  match s.log.file with
  | none => .ok s
  | some p =>
    match expand env p.text.toList with
    | none => .error .noHome
    | some cs => .ok { s with log := { s.log with file := some ⟨String.ofList cs⟩ } }

/-- The settings that a version and unchecked settings give. -/
def check (env : Environment) (number : Nat) (s : Settings) : Except Fault Settings :=
  if number ≠ version then .error (.badVersion number)
  else
    match extensionFault? s.output.extension s.sourceExtension with
    | some cause => .error (.badExtension s.output.extension cause)
    | none => expandLog env s

/-- The settings that a text holds. -/
def ofText (env : Environment) (path : Path) (text : String) : Except Fault Settings :=
  match (readDocument text).bind (readEntries path) with
  | none => .error (.malformed path)
  | some (number, s) => check env number s

/-- The settings of a file, or those that hold without one. -/
def load (env : Environment) (files : FileSystem) : Option Path → Except Fault Settings
  | none => .ok standard
  | some path =>
    if files.hasNode path then
      match files.readText path with
      | .error cause => .error (.unreadable path cause)
      | .ok text => ofText env path text
    else .error (.notFound path)

end Settings

end Fanout
