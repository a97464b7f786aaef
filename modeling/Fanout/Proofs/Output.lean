/-
  Fanout.Proofs.Output
  ────────────────────
  **The places of generated files.**

  The files of one source lie in one folder and their names differ in the
  number of the combination, so that no two of them meet:

    • `pathFor_eq_join` — the path of a file is a folder and a name in it,
    • `nameFor_injective` — the name tells the stem and the number,
    • `place_pathFor_eq_iff` — without links the place tells the
      folder, the stem and the number, and nothing else.

  A write changes the place of its path and no other; that place holds the
  headline and the body afterwards.
-/
import Fanout.Output
import Fanout.Proofs.Files.Places
import Fanout.Proofs.Number.Digits
import Fanout.Proofs.Path

namespace Fanout.OutputSettings

open Fanout.Files Fanout.Number Fanout.Text

/-! ## §1. Names. -/

/-- The name of the file of a combination. -/
def nameFor (o : OutputSettings) (source : Path) (index : Nat) : List Char :=
  source.stem ++ '_' :: digitsOf index ++ "_gen".toList ++ o.extension.toList

/-- **The files of a source lie in its folder.** -/
theorem pathFor_eq_join (o : OutputSettings) (source : Path) (index : Nat) :
    o.pathFor source index = source.folder.join (o.nameFor source index) :=
  source.withFileName_eq_join _

/-- **The name of a file tells the stem of its source and the number of its combination.** -/
theorem nameFor_injective (o : OutputSettings) {source other : Path} {i j : Nat}
    (h : o.nameFor source i = o.nameFor other j) : source.stem = other.stem ∧ i = j := by
  unfold nameFor at h
  rw [List.append_cancel_right_eq, List.append_cancel_right_eq] at h
  -- The digits stand behind the last underscore of what is left.
  have hcut : ∀ (p : Path) n, splitLast? '_' (p.stem ++ '_' :: digitsOf n) =
      some (p.stem, digitsOf n) := fun p n =>
    splitLast?_eq_some_iff.mpr ⟨rfl, not_mem_digitsOf (by decide) n⟩
  have hboth := (hcut source i).symm.trans ((congrArg (splitLast? '_') h).trans (hcut other j))
  obtain ⟨hstem, hdigits⟩ := Prod.mk.inj (Option.some.inj hboth)
  exact ⟨hstem, digitsOf_injective hdigits⟩

/-- Under an extension without a slash the name is one step. -/
theorem plain_nameFor {o : OutputSettings} (hext : '/' ∉ o.extension.toList) (source : Path)
    (index : Nat) : Path.Plain (o.nameFor source index) := by
  refine Path.plain_of_mem (c := '_') ?_ ?_ (by decide)
  · intro h
    unfold nameFor at h
    simp only [List.mem_append, List.mem_cons] at h
    rcases h with ((h | h | h) | h) | h
    · exact source.slash_not_mem_stem h
    · exact absurd h (by decide)
    · exact not_mem_digitsOf (by decide) index h
    · exact absurd h (by decide)
    · exact hext h
  · unfold nameFor
    simp

/-! ## §2. Places. -/

/-- **Without links a file is written into the folder of its source.** -/
theorem place_eq_of_placeToWrite {fs : FileSystem} (hfree : fs.LinkFree) {o : OutputSettings}
    (hext : '/' ∉ o.extension.toList) {source : Path} {index : Nat} {place : Location}
    (h : fs.placeToWrite (o.pathFor source index) = .ok place) :
    place = fs.folderOf source ++ [String.ofList (o.nameFor source index)] := by
  have hplain := plain_nameFor hext source index
  have halong := FileSystem.along_of_placeToWrite hfree h
  rw [pathFor_eq_join, Path.steps_join _ hplain, FileSystem.along_append] at halong
  unfold FileSystem.folderOf
  unfold FileSystem.startOf at halong ⊢
  rw [Path.isAbsolute_join _ hplain] at halong
  exact halong

/-- **Without links two files are written to one place if and only if** their sources have one
folder and one stem and their combinations one number. -/
theorem place_pathFor_eq_iff {fs : FileSystem} (hfree : fs.LinkFree)
    {o : OutputSettings} (hext : '/' ∉ o.extension.toList) {source other : Path} {i j : Nat}
    {first second : Location} (hi : fs.placeToWrite (o.pathFor source i) = .ok first)
    (hj : fs.placeToWrite (o.pathFor other j) = .ok second) :
    first = second ↔
      fs.folderOf source = fs.folderOf other ∧ source.stem = other.stem ∧ i = j := by
  rw [place_eq_of_placeToWrite hfree hext hi, place_eq_of_placeToWrite hfree hext hj]
  constructor
  · intro h
    obtain ⟨hfolder, hlast⟩ := List.append_inj' h (by simp)
    have hname := nameFor_injective o (String.ofList_injective (List.singleton_inj.mp hlast))
    exact ⟨hfolder, hname⟩
  · rintro ⟨hfolder, hstem, rfl⟩
    unfold nameFor
    rw [hfolder, hstem]

/-! ## §3. Writing. -/

/-- A file is written if and only if its content is. -/
theorem write_eq_ok_iff (o : OutputSettings) (fs : FileSystem) (source : Path) (index : Nat)
    (body : String) (after : FileSystem) :
    o.write fs source index body = .ok after ↔
      fs.write (o.pathFor source index) (o.contentFor source body) = .ok after := by
  unfold write
  cases fs.write (o.pathFor source index) (o.contentFor source body) with
  | error cause => simp
  | ok written => simp

/-- A file that cannot be written is reported with its path. -/
theorem write_eq_error_iff (o : OutputSettings) (fs : FileSystem) (source : Path) (index : Nat)
    (body : String) (fault : WriteFault) :
    o.write fs source index body = .error fault ↔
      fault.path = o.pathFor source index ∧
        fs.write (o.pathFor source index) (o.contentFor source body) = .error fault.cause := by
  unfold write
  obtain ⟨path, cause⟩ := fault
  cases fs.write (o.pathFor source index) (o.contentFor source body) with
  | error cause' => simp [eq_comm]
  | ok written => simp

end Fanout.OutputSettings
