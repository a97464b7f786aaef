/-
  Fanout.Generate
  ───────────────
  **From a source to its files.**

  The derived names are resolved in every combination before anything is
  written, so that a failure among them leaves no file behind.  Then the
  combinations are rendered and written one after the other, up to the
  first that fails.
-/
import Fanout.Combination
import Fanout.Effect
import Fanout.Output
import Fanout.Source.Read
import Fanout.Template.Render

namespace Fanout

open Fanout.Files Fanout.Log Fanout.Template Fanout.Expr

/-! ## §1. Failures. -/

/-- Why a source gives no files. -/
inductive GenerateFault where
  /-- The source cannot be used. -/
  | source (fault : Source.Fault)
  /-- A derived name of a file has no value in a combination. -/
  | derived (file : String) (cause : DerivedError)
  /-- The template cannot be filled in a combination. -/
  | render (file : String) (combination : Combination) (cause : RenderError)
  /-- A file cannot be written. -/
  | write (fault : WriteFault)
  /-- There are too many combinations. -/
  | tooManyCombinations (file : String)
  deriving DecidableEq

/-- The wording of a failure. -/
def GenerateFault.message : GenerateFault → String
  | .source fault => fault.message
  | .derived _ cause => cause.message
  | .render file c cause =>
    cause.message ++ "\nlocals: " ++ c.bindings.text ++ "\nfile: " ++ file ++ "\nindex: " ++
      countText c.index
  | .write fault => fault.message
  | .tooManyCombinations file => file ++ ": too many combinations to enumerate"

/-- The name of a kind of failure. -/
def GenerateFault.category : GenerateFault → String
  | .source fault => "Parse/" ++ fault.category
  | .derived _ cause => "Derived/" ++ cause.cause.category
  | .render _ _ cause => "Render/" ++ cause.category
  | .write _ => "Write/Io"
  | .tooManyCombinations _ => "TooManyCombinations"

/-! ## §2. Resolving every combination. -/

/-- A combination with the derived names added to its bindings. -/
def resolveIn (derived : List Derived) (c : Combination) : Except DerivedError Combination :=
  match resolveDerived c.bindings.withTimestamps derived with
  | (b, none) => .ok ⟨c.index, b⟩
  | (_, some e) => .error e

/-- Combinations with the derived names added, up to the first failure. -/
def resolveAll (derived : List Derived) :
    List Combination → Except DerivedError (List Combination)
  | [] => .ok []
  | c :: rest =>
    match resolveIn derived c with
    | .error e => .error e
    | .ok c => (resolveAll derived rest).map (c :: ·)

/-! ## §3. Writing. -/

/-- Renders a combination and writes its file. -/
def writeCombination (o : OutputSettings) (source : Source) (files : FileSystem)
    (c : Combination) : Effect GenerateFault Path :=
  match substitute source.template source.templateLine c.bindings with
  | .error cause => .failed files (.render source.path.fileName c cause)
  | .ok filled =>
    let kept := (spanFailures filled c.bindings).map fun f => Event.spanKept f.1 f.2
    match o.write files source.path c.index (resolveSpans filled c.bindings) with
    | .error fault => ⟨files, kept, .error (.write fault)⟩
    | .ok written =>
      let path := o.pathFor source.path c.index
      ⟨written, kept ++ [.fileWritten path c.index], .ok path⟩

/-- Renders and writes combinations one after the other. -/
def writeAll (o : OutputSettings) (source : Source) (files : FileSystem) :
    List Combination → Effect GenerateFault (List Path)
  | [] => .done files []
  | c :: rest =>
    (writeCombination o source files c).andThen fun files path =>
      (writeAll o source files rest).andThen fun files paths => .done files (path :: paths)

/-! ## §4. Sources. -/

/-- What a source gave. -/
structure Report where
  /-- The path of the source. -/
  source : Path
  /-- The number of its combinations. -/
  combinations : Nat
  /-- The files that were written, in order. -/
  written : List Path
  deriving DecidableEq

/-- Writes the files of a source. -/
def generate (o : OutputSettings) (files : FileSystem) (source : Source) :
    Effect GenerateFault Report :=
  let file := source.path.fileName
  match combinationCount? source.vars with
  | none => .failed files (.tooManyCombinations file)
  | some _ =>
    match resolveAll source.derived (combinations source.vars) with
    | .error e => .failed files (.derived file e)
    | .ok cs =>
      ((writeAll o source files cs).after [.derivedResolved file cs.length]).andThen
        fun files written =>
          ⟨files, [.sourceDone file written.length], .ok ⟨source.path, cs.length, written⟩⟩

/-- Reads the source at a path and writes its files. -/
def generateFile (o : OutputSettings) (files : FileSystem) (path : Path) :
    Effect GenerateFault Report :=
  match Source.load files path with
  | .error fault => .failed files (.source fault)
  | .ok source =>
    (generate o files source).after
      [.headerRead path source.vars.length source.derived.length]

end Fanout
