/-
  Fanout.CommandLine
  ──────────────────
  **What the arguments of the command ask for.**

  An argument that begins with a dash is an option, up to a double dash;
  every other argument is the path of a source, unless the option before it
  wants it for a value.  The arguments are read from left to right and the
  first that is wrong, or asks for help or the version, decides.
-/
import Fanout.Path

namespace Fanout

open Fanout.Text

/-! ## §1. Requests. -/

/-- What the arguments ask for. -/
inductive Request where
  /-- To explain the command. -/
  | help
  /-- To name its version. -/
  | version
  /-- They are wrong. -/
  | usage
  /-- To generate files, with settings from a file if one is given. -/
  | run (settings : Option Path) (sources : List Path)
  deriving DecidableEq

/-- The explanation of the command. -/
def helpText : String :=
  "Expand crank sources into one generated file per combination\n\n" ++
  "Usage: crankgen [OPTIONS] <SOURCE>...\n\n" ++
  "Arguments:\n" ++
  "  <SOURCE>...  Source files, or directories searched recursively for sources\n\n" ++
  "Options:\n" ++
  "      --config <CONFIG>  Optional crankgen.toml; built-in defaults apply without it\n" ++
  "  -h, --help             Print help\n" ++
  "  -V, --version          Print version\n"

/-- The name and the version of the command. -/
def versionText : String := "crankgen 0.1.0\n"

/-! ## §2. Reading arguments. -/

/-- What an argument is. -/
inductive Argument where
  /-- Two dashes, after which everything is a path. -/
  | escape
  /-- The option for settings, perhaps with its value. -/
  | settings (value : Option String)
  /-- The option for help. -/
  | help
  /-- The option for the version. -/
  | version
  /-- An option that there is not. -/
  | unknown
  /-- Anything else. -/
  | plain (text : String)
  deriving DecidableEq

/-- Reads an option behind its two dashes. -/
def longOption (cs : List Char) : Argument :=
  match splitFirst? '=' cs with
  | some (name, value) =>
    if name = "config".toList then .settings (some (String.ofList value)) else .unknown
  | none =>
    if cs = "config".toList then .settings none
    else if cs = "help".toList then .help
    else if cs = "version".toList then .version
    else .unknown

/-- Reads an argument. -/
def readArgument (text : String) : Argument :=
  match text.toList with
  | ['-', '-'] => .escape
  | '-' :: '-' :: cs => longOption cs
  | '-' :: 'h' :: _ => .help
  | '-' :: 'V' :: _ => .version
  | '-' :: _ :: _ => .unknown
  | _ => .plain text

/-- A path that must not be empty. -/
def path? (text : String) : Option Path := if text.isEmpty then none else some ⟨text⟩

/-- The request that sources make, of which there has to be one. -/
def requestOf (settings : Option Path) (sources : List Path) : Request :=
  if sources.isEmpty then .usage else .run settings sources

/-- Reads arguments behind two dashes. -/
def readPaths (settings : Option Path) (sources : List Path) : List String → Request
  | [] => requestOf settings sources
  | arg :: rest =>
    match path? arg with
    | some p => readPaths settings (sources ++ [p]) rest
    | none => .usage

/-- Reads arguments; `wanted` tells whether the option for settings waits for its value. -/
def readArguments (wanted : Bool) (settings : Option Path) (sources : List Path) :
    List String → Request
  | [] => if wanted then .usage else requestOf settings sources
  | arg :: rest =>
    match readArgument arg, wanted with
    | .plain text, true =>
      match path? text with
      | some p => readArguments false (some p) sources rest
      | none => .usage
    | .plain text, false =>
      match path? text with
      | some p => readArguments false settings (sources ++ [p]) rest
      | none => .usage
    | _, true => .usage
    | .escape, false => readPaths settings sources rest
    | .help, false => .help
    | .version, false => .version
    | .unknown, false => .usage
    | .settings value, false =>
      if settings.isSome then .usage
      else
        match value with
        | none => readArguments true settings sources rest
        | some text =>
          match path? text with
          | some p => readArguments false (some p) sources rest
          | none => .usage

/-- What the arguments of the command ask for. -/
def Request.ofArguments (args : List String) : Request := readArguments false none [] args

end Fanout
