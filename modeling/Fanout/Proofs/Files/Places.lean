/-
  Fanout.Proofs.Files.Places
  ──────────────────────────
  **Paths without links.**

  Where there is no link, the place that a path leads to can be read off
  the path: `along` goes its steps without a look at the file system, and a
  file lies in the folder of its path (`home_eq_of_find`).  The name of a
  file alone leads into the current directory, be there links elsewhere or
  not (`find_fileName`, `placeToWrite_fileName`), and a dot to the directory
  itself (`find_dot`).
-/
import Fanout.Proofs.Files.Writing
import Fanout.Proofs.Path

namespace Fanout.Files.FileSystem

open Fanout.Text

/-- No link is anywhere. -/
def LinkFree (fs : FileSystem) : Prop := ∀ place target, fs.node? place ≠ some (.link target)

/-- The place to which steps lead from a place. -/
def along (here : Location) : List Path.Step → Location
  | [] => here
  | .stay :: rest => along here rest
  | .up :: rest => along here.dropLast rest
  | .named name :: rest => along (here ++ [name]) rest

theorem along_append (steps more : List Path.Step) :
    ∀ here : Location, along here (steps ++ more) = along (along here steps) more := by
  induction steps with
  | nil => intro here; rfl
  | cons step steps ih =>
      intro here
      cases step with
      | stay => exact ih here
      | up => exact ih here.dropLast
      | named name => exact ih (here ++ [name])

/-- **Without links a walk ends where its steps lead.** -/
theorem along_of_endOf_walk {fs : FileSystem} (hfree : fs.LinkFree) {follow : Bool} {links : Nat}
    {here : Location} {steps : List Path.Step} {e : Location × Option Node}
    (h : endOf (fs.walk follow links here steps) = some e) : e.1 = along here steps := by
  -- The place gone to is the place that `along` keeps; links are the only other way.
  fun_induction walk fs follow links here steps with
  | case1 links here =>
      obtain rfl := Option.some.inj h
      rfl
  | case2 links here rest ih => exact ih h
  | case3 links here rest ih => exact ih h
  | case4 links here name rest hlong => cases h
  | case5 links here name rest place hshort hnode hend =>
      obtain rfl := Option.some.inj h
      rw [List.isEmpty_iff.mp hend]
      rfl
  | case6 links here name rest place hshort hnode hend => cases h
  | case7 links here name rest place hshort hnode ih => exact ih h
  | case8 links here name rest place hshort content hnode hend =>
      obtain rfl := Option.some.inj h
      rw [List.isEmpty_iff.mp hend]
      rfl
  | case9 links here name rest place hshort content hnode hend => cases h
  | case10 links here name rest place hshort target hnode hstop =>
      exact absurd hnode (hfree place target)
  | case11 here name rest place hshort target hnode hgo =>
      exact absurd hnode (hfree place target)
  | case12 here name rest place hshort target hnode hgo left ih =>
      exact absurd hnode (hfree place target)

/-- Without links a path is written to the place to which its steps lead. -/
theorem along_of_placeToWrite {fs : FileSystem} (hfree : fs.LinkFree) {p : Path}
    {place : Location} (h : fs.placeToWrite p = .ok place) :
    place = along (startOf fs.current p) p.steps := by
  rw [placeToWrite_eq_ok_iff] at h
  rw [resolveFrom_eq_walk h] at h
  exact along_of_endOf_walk hfree h

/-- **Without links a walk to a file ends with a step to its name.** -/
theorem exists_last_step {fs : FileSystem} (hfree : fs.LinkFree) {follow : Bool} {links : Nat}
    {here : Location} {steps : List Path.Step} {place : Location} {c : Content}
    (h : fs.walk follow links here steps = .ok (.found place (.file c))) :
    ∃ front name, steps = front ++ [.named name] ∧ place = along here front ++ [name] := by
  fun_induction walk fs follow links here steps with
  | case1 links here => cases h
  | case2 links here rest ih =>
      obtain ⟨front, name, rfl, hplace⟩ := ih h
      exact ⟨.stay :: front, name, rfl, hplace⟩
  | case3 links here rest ih =>
      obtain ⟨front, name, rfl, hplace⟩ := ih h
      exact ⟨.up :: front, name, rfl, hplace⟩
  | case4 links here name rest hlong => cases h
  | case5 links here name rest found hshort hnode hend => cases h
  | case6 links here name rest found hshort hnode hend => cases h
  | case7 links here name rest found hshort hnode ih =>
      obtain ⟨front, last, rfl, hplace⟩ := ih h
      exact ⟨.named name :: front, last, rfl, hplace⟩
  | case8 links here name rest found hshort content hnode hend =>
      obtain ⟨rfl, -⟩ : found = place ∧ content = c := by simpa using h
      exact ⟨[], name, by rw [List.isEmpty_iff.mp hend]; rfl, rfl⟩
  | case9 links here name rest found hshort content hnode hend => cases h
  | case10 links here name rest found hshort target hnode hstop =>
      exact absurd hnode (hfree found target)
  | case11 here name rest found hshort target hnode hgo =>
      exact absurd hnode (hfree found target)
  | case12 here name rest found hshort target hnode hgo left ih =>
      exact absurd hnode (hfree found target)

/-- Steps that stay lead nowhere else. -/
theorem along_of_stays (stays : List Path.Step) :
    ∀ here : Location, (∀ step ∈ stays, step = .stay) → along here stays = here := by
  induction stays with
  | nil => intro here _; rfl
  | cons step stays ih =>
      intro here h
      obtain rfl := h step List.mem_cons_self
      exact ih here fun other hother => h other (List.mem_cons_of_mem _ hother)

/-- The place of the folder in which the neighbours of a path lie, where there are no links. -/
def folderOf (fs : FileSystem) (p : Path) : Location :=
  along (startOf fs.current p.folder) p.folder.lead

/-- **Without links a file lies in the folder of its path**, under the last name of the path. -/
theorem home_eq_of_find {fs : FileSystem} (hfree : fs.LinkFree) {p : Path} {home : Location}
    {c : Content} (h : fs.find true p = .ok (home, .file c)) :
    ∃ name, p.fileName? = some name ∧ home = fs.folderOf p ++ [String.ofList name] := by
  have hplace := (placeToWrite_eq_ok_iff fs p home).mp (placeToWrite_of_find h).1
  have hwalk := resolveFrom_eq_walk hplace
  have hfound : fs.walk true maxLinks (startOf fs.current p) p.steps =
      .ok (.found home (.file c)) := by
    rw [← hwalk]
    unfold find at h
    split at h
    · cases h
    · rename_i found node htarget
      obtain ⟨rfl, rfl⟩ : found = home ∧ node = .file c := by simpa using h
      exact htarget
    · cases h
  obtain ⟨front, down, hsteps, hhome⟩ := exists_last_step hfree hfound
  obtain ⟨names, last, hsplit, hplain, rfl, hfront⟩ := Path.exists_splitAt_of_steps hsteps
  have hname := Path.fileName?_of_splitAt hsplit hplain
  refine ⟨last, hname, ?_⟩
  -- The folder is the path without its last name, which leads where the steps before it do.
  have hfolder : p.folder = p.parent := by
    unfold Path.folder
    rw [hname]
  obtain ⟨stays, hlead, hstays⟩ := Path.exists_lead_parent hsplit hplain
  have hstart : startOf fs.current p.parent = startOf fs.current p := by
    unfold startOf
    rw [Path.isAbsolute_parent hsplit hplain]
  unfold folderOf
  rw [hhome, ← hfront, hlead, along_append, along_of_stays stays _ hstays, hfolder, hstart]

/-! ## Names in the current directory. -/

/-- A name that a file can have. -/
structure IsFileName (name : String) : Prop where
  /-- It is one step downwards. -/
  plain : Path.Plain name.toList
  /-- There is no null character in it. -/
  noNull : '\x00' ∉ name.toList
  /-- It is short enough. -/
  short : byteLength name.toList ≤ maxName

/-- **A name leads to what lies under it in the current directory.** -/
theorem resolveFrom_fileName (fs : FileSystem) (follow : Bool) {name : String}
    (h : IsFileName name) :
    fs.resolveFrom follow fs.current ⟨name⟩ =
      fs.walk follow maxLinks fs.current [.named name] := by
  have hparts : splitAt '/' name.toList = [] ++ [name.toList] :=
    splitAt_of_not_mem _ h.plain.noSlash
  have hend : Path.endsWithSlash ⟨name⟩ = false :=
    Path.endsWithSlash_eq_false hparts h.plain.ne_nil
  have hsteps : Path.steps ⟨name⟩ = [.named name] := by
    unfold Path.steps
    rw [hparts, hend]
    simp [h.plain.step]
  have hstart : startOf fs.current ⟨name⟩ = fs.current := by
    unfold startOf
    rw [Path.isAbsolute_eq_false hparts, if_neg Bool.false_ne_true]
  have hempty : ¬ name.isEmpty = true := by
    rw [String.isEmpty_iff]
    rintro rfl
    exact h.plain.ne_nil rfl
  have hnull : ¬ name.toList.contains '\x00' = true := by
    rw [List.contains_iff_mem]
    exact h.noNull
  have hlength : ¬ maxPath < byteLength name.toList := by
    have hshort := h.short
    unfold maxName at hshort
    unfold maxPath
    omega
  unfold resolveFrom
  dsimp only
  rw [if_neg hempty, if_neg hnull, if_neg hlength, hsteps, hstart]

/-- The name of a file leads to it. -/
theorem find_fileName {fs : FileSystem} (follow : Bool) {name : String} (h : IsFileName name)
    {c : Content} (hnode : fs.node? (fs.current ++ [name]) = some (.file c)) :
    fs.find follow ⟨name⟩ = .ok (fs.current ++ [name], .file c) := by
  have hshort : ¬ maxName < byteLength name.toList := Nat.not_lt.mpr h.short
  unfold find
  rw [resolveFrom_fileName fs follow h, walk, if_neg hshort, hnode]
  rfl

/-- A dot leads to the current directory. -/
theorem find_dot (fs : FileSystem) (follow : Bool) :
    fs.find follow ⟨"."⟩ = .ok (fs.current, .directory) := by
  have hsteps : Path.steps ⟨"."⟩ = [.stay] := by decide
  have hstart : startOf fs.current ⟨"."⟩ = fs.current := rfl
  have hwalk : fs.walk follow maxLinks fs.current [.stay] =
      .ok (.found fs.current .directory) := by rw [walk, walk]
  have hshort : ¬ maxPath < byteLength ".".toList := by decide
  unfold find resolveFrom
  dsimp only
  rw [if_neg (by decide), if_neg (by decide), if_neg hshort, hsteps, hstart, hwalk]

end Fanout.Files.FileSystem
