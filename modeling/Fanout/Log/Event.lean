/-
  Fanout.Log.Event
  ────────────────
  **What a run reports while it goes on.**

  An event has a level, a topic by which filters select it, a headline and
  named fields.
-/
import Fanout.Path
import Fanout.Expr.Failure

namespace Fanout.Log

open Fanout.Expr

/-! ## §1. Levels. -/

/-- How important an event is, from the most to the least. -/
inductive Level where
  | error | warn | info | debug | trace
  deriving DecidableEq, Repr

/-- The place of a level in the order; what is more important comes first. -/
def Level.rank : Level → Nat
  | .error => 1
  | .warn => 2
  | .info => 3
  | .debug => 4
  | .trace => 5

/-- A level in a line of the log. -/
def Level.label : Level → String
  | .error => "ERROR"
  | .warn => " WARN"
  | .info => " INFO"
  | .debug => "DEBUG"
  | .trace => "TRACE"

/-! ## §2. Events. -/

/-- An event. -/
inductive Event where
  /-- The settings are known; they come from a file or hold without one. -/
  | settingsLoaded (file : Option Path)
  /-- A directory holds no source. -/
  | noSources (directory : Path) (extension : String)
  /-- A source has been read. -/
  | headerRead (source : Path) (vars derived : Nat)
  /-- The derived names have values in every combination. -/
  | derivedResolved (file : String) (combinations : Nat)
  /-- A span of a template stays as it is written. -/
  | spanKept (expression : String) (cause : EvalError)
  /-- The file of a combination has been written. -/
  | fileWritten (path : Path) (index : Nat)
  /-- All files of a source have been written. -/
  | sourceDone (file : String) (files : Nat)
  /-- All sources are done. -/
  | runDone (sources files : Nat) (extension : String)
  deriving DecidableEq

namespace Event

/-- How important an event is. -/
def level : Event → Level
  | settingsLoaded _ => .debug
  | noSources _ _ => .warn
  | headerRead _ _ _ => .debug
  | derivedResolved _ _ => .debug
  | spanKept _ _ => .trace
  | fileWritten _ _ => .debug
  | sourceDone _ _ => .info
  | runDone _ _ _ => .info

/-- The topic of an event. -/
def topic : Event → String
  | settingsLoaded _ => "crankgen::cmd::generate"
  | noSources _ _ => "crankgen_core::sources::discovery"
  | headerRead _ _ _ => "crankgen_core::directives::parser"
  | derivedResolved _ _ => "crankgen_core::generator"
  | spanKept _ _ => "crankgen_core::expr::derived"
  | fileWritten _ _ => "crankgen_core::output::writer"
  | sourceDone _ _ => "crankgen_core::generator"
  | runDone _ _ _ => "crankgen::cmd::generate"

/-- What an event says. -/
def headline : Event → String
  | settingsLoaded _ => "configuration loaded"
  | noSources _ _ => "no sources found"
  | headerRead _ _ _ => "parsed source header"
  | derivedResolved _ _ => "evaluated derived expressions"
  | spanKept _ _ => "embedded expression left verbatim"
  | fileWritten _ _ => "wrote generated file"
  | sourceDone _ _ => "generated"
  | runDone _ _ _ => "done"

/-- A path that may be missing. -/
def optionalPath : Option Path → String
  | some p => "Some(" ++ Text.escapedPath p.text ++ ")"
  | none => "None"

/-- The fields of an event with their texts. -/
def fields : Event → List (String × String)
  | settingsLoaded file => [("config", optionalPath file)]
  | noSources directory extension => [("dir", directory.text), ("extension", extension)]
  | headerRead source vars derived =>
    [("file", source.text), ("variables", countText vars), ("derived", countText derived)]
  | derivedResolved file combinations =>
    [("file", file), ("combinations", countText combinations)]
  | spanKept expression cause =>
    [("expression", Text.escaped expression), ("error", cause.message)]
  | fileWritten path index => [("path", path.text), ("index", countText index)]
  | sourceDone file files => [("file", file), ("files", countText files)]
  | runDone sources files extension =>
    [("sources", countText sources), ("files", countText files), ("extension", extension)]

/-- The line of an event in a log, with the stamp of its time. -/
def line (stamp : String) (e : Event) : String :=
  stamp ++ " " ++ e.level.label ++ " " ++ e.headline ++
    String.join (e.fields.map fun f => " " ++ f.1 ++ "=" ++ f.2) ++ "\n"

end Event

end Fanout.Log
