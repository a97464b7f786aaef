/-
  Fanout.Run
  ──────────
  **A run of the command.**

  The settings come first, then the log, then the list of all sources;
  after that the sources are done one after the other.  The first failure
  ends the run.
-/
import Fanout.CommandLine
import Fanout.Source.Search
import Fanout.Generate
import Fanout.Log.Filter
import Fanout.Settings.Load

namespace Fanout

open Fanout.Files Fanout.Log Fanout.Settings

/-! ## §1. Failures. -/

/-- Why a run fails. -/
inductive RunFault where
  /-- There are no settings. -/
  | settings (fault : Settings.Fault)
  /-- The file for the log cannot be made. -/
  | logFile (path : Path) (cause : Files.Fault)
  /-- The arguments cannot be turned into sources. -/
  | discovery (fault : DiscoveryFault)
  /-- A source fails. -/
  | source (path : Path) (fault : GenerateFault)
  deriving DecidableEq

/-- What is said of a failure: which source it is about, if it is about one, and why. -/
def RunFault.report : RunFault → String
  | .settings fault => "FAIL crankgen\n" ++ fault.message ++ "\n"
  | .logFile path cause =>
    "FAIL crankgen\nfailed to create log file " ++ path.text ++ ": " ++ cause.message ++ "\n"
  | .discovery fault => "FAIL crankgen\n" ++ fault.message ++ "\n"
  | .source path fault => "FAIL crankgen " ++ path.text ++ "\n" ++ fault.message ++ "\n"

/-! ## §2. Going on. -/

/-- Does sources one after the other; gives the number of files, of which there are
`written` already. -/
def runSources (o : OutputSettings) (files : FileSystem) (written : Nat) :
    List Path → Effect RunFault Nat
  | [] => .done files written
  | path :: rest =>
    ((generateFile o files path).mapError (RunFault.source path)).andThen fun files report =>
      runSources o files (written + report.written.length) rest

/-- Makes the file for the log, if there is to be one. -/
def startLog (files : FileSystem) (log : LogSettings) : Except RunFault FileSystem :=
  match log.file with
  | none => .ok files
  | some path =>
    match files.write path (.text "") with
    | .ok files => .ok files
    | .error cause => .error (.logFile path cause)

/-- Turns arguments into sources and does them. -/
def runArguments (s : Settings) (files : FileSystem) (args : List Path) :
    Effect RunFault Unit :=
  (((expandSources files s.sourceExtension args).mapError RunFault.discovery).after
    [.settingsLoaded s.source]).andThen fun files sources =>
      (runSources s.output files 0 sources).andThen fun files written =>
        ⟨files, [.runDone sources.length written s.output.extension], .ok ()⟩

/-! ## §3. The log. -/

/-- The variable of the environment that holds a filter. -/
def filterVariable : String := "RUST_LOG"

/-- The text of the filter in the environment. -/
def filterText (env : Environment) : String := (Assoc.get? filterVariable env).getD ""

/-- The filter for the terminal. -/
def terminalFilter (env : Environment) (log : LogSettings) : Filter :=
  .ofText ((namedThreshold? log.level).getD (some .warn)) (filterText env)

/-- The filter for the file. -/
def fileFilter (env : Environment) (log : LogSettings) : Filter :=
  .ofText ((log.fileLevel.bind namedThreshold?).getD (some .debug)) (filterText env)

/-- The events that a filter shows, as lines with the stamp of their time. -/
def shownLines (f : Filter) (stamp : String) (events : List Event) : String :=
  String.join ((events.filter f.shows).map (Event.line stamp))

/-- What is said about the filter in the environment, once for each place of the log. -/
def filterNotes (env : Environment) (log : LogSettings) : String :=
  let notes := String.join (ignoredNotes (filterText env))
  if log.file.isSome then notes ++ notes else notes

/-- The files with the log in its own, if there is one. -/
def endLog (env : Environment) (log : LogSettings) (stamp : String) (events : List Event)
    (files : FileSystem) : FileSystem :=
  match log.file with
  | none => files
  | some path =>
    match files.write path (.text (shownLines (fileFilter env log) stamp events)) with
    | .ok files => files
    | .error _ => files

/-! ## §4. The whole run. -/

/-- What a run leaves. -/
structure Finished where
  /-- The files. -/
  files : FileSystem
  /-- The exit code. -/
  code : UInt32
  /-- What is written as output. -/
  output : String
  /-- What is written as diagnostics. -/
  diagnostics : String

/-- Ends a run with a failure. -/
def Finished.failure (files : FileSystem) (before : String) (fault : RunFault) : Finished :=
  ⟨files, 1, "", before ++ fault.report⟩

/-- Ends a run under settings that has come to a result. -/
def finish (env : Environment) (log : LogSettings) (stamp : String)
    (e : Effect RunFault Unit) : Finished :=
  let files := endLog env log stamp e.events e.files
  let said := filterNotes env log ++ shownLines (terminalFilter env log) stamp e.events
  match e.result with
  | .ok () => ⟨files, 0, "", said⟩
  | .error fault => .failure files said fault

/-- Generates files from arguments. -/
def generateAll (env : Environment) (files : FileSystem) (stamp : String)
    (settings : Option Path) (args : List Path) : Finished :=
  match Settings.load env files settings with
  | .error fault => .failure files "" (.settings fault)
  | .ok s =>
    match startLog files s.log with
    | .error fault => .failure files (filterNotes env s.log) fault
    | .ok started => finish env s.log stamp (runArguments s started args)

/-- What is said of wrong arguments. -/
def usageText : String :=
  "error: invalid arguments\n\nUsage: crankgen [OPTIONS] <SOURCE>...\n\n" ++
    "For more information, try '--help'.\n"

/-- Runs the command. -/
def runCommand (env : Environment) (files : FileSystem) (stamp : String)
    (args : List String) : Finished :=
  match Request.ofArguments args with
  | .help => ⟨files, 0, helpText, ""⟩
  | .version => ⟨files, 0, versionText, ""⟩
  | .usage => ⟨files, 2, "", usageText⟩
  | .run settings sources => generateAll env files stamp settings sources

end Fanout
