/-
  Fanout.Proofs.Files.Writing
  ───────────────────────────
  **What writing leaves as it is.**

  A write puts a file at one place where a file or nothing was.  Paths see
  no more of such a place than that nothing stands in the way of a write
  there, so no write turns a path into another direction:

    • `endOf_walk` — file systems of the same outline send every walk to
      the same end,
    • `placeToWrite_eq` — the place that a path is written to stays the
      same through any number of writes,
    • `write_eq_ok_iff`, `node?_write` — a write changes that place and no
      other,
    • `find_of_placeToWrite`, `readText_of_node` — reading gives what is at
      the place of writing.
-/
import Fanout.Files.FileSystem

namespace Fanout.Files.FileSystem

open Fanout.Text

/-! ## §1. Outlines. -/

/-- What stands in the way of a write: all but a file. -/
def obstacle? : Option Node → Option Node
  | none => none
  | some (.file _) => none
  | some node => some node

@[simp] theorem obstacle?_none : obstacle? none = none := rfl

@[simp] theorem obstacle?_file (c : Content) : obstacle? (some (.file c)) = none := rfl

@[simp] theorem obstacle?_directory : obstacle? (some .directory) = some .directory := rfl

@[simp] theorem obstacle?_link (target : Path) :
    obstacle? (some (.link target)) = some (.link target) := rfl

/-- Nothing stands in the way where a file is or nothing. -/
theorem obstacle?_eq_none_iff (node : Option Node) :
    obstacle? node = none ↔ node = none ∨ ∃ c, node = some (.file c) := by
  cases node with
  | none => simp
  | some node => cases node <;> simp

/-- What stands in the way is there. -/
theorem eq_of_obstacle? {node : Option Node} {seen : Node} (h : obstacle? node = some seen) :
    node = some seen := by
  cases node with
  | none => cases h
  | some node =>
      cases node with
      | file c => cases h
      | directory => exact h
      | link target => exact h

/-- Two file systems with the same current directory and the same obstacles: they differ
in files at most. -/
structure SameOutline (before after : FileSystem) : Prop where
  /-- Relative paths start from the same place. -/
  current : after.current = before.current
  /-- The same stands in the way of writes. -/
  obstacle : ∀ place, obstacle? (after.node? place) = obstacle? (before.node? place)

namespace SameOutline

theorem refl (fs : FileSystem) : SameOutline fs fs := ⟨rfl, fun _ => rfl⟩

theorem trans {a b c : FileSystem} (hab : SameOutline a b) (hbc : SameOutline b c) :
    SameOutline a c :=
  ⟨hbc.current.trans hab.current, fun place => (hbc.obstacle place).trans (hab.obstacle place)⟩

variable {before after : FileSystem} {place : Location}

/-- An obstacle stays. -/
theorem node?_eq (h : SameOutline before after) {seen : Node}
    (hseen : obstacle? (before.node? place) = some seen) : after.node? place = some seen :=
  eq_of_obstacle? ((h.obstacle place).trans hseen)

end SameOutline

/-- A file put where nothing stands in the way leaves the outline as it is. -/
theorem sameOutline_put (fs : FileSystem) {place : Location} (hp : place ≠ [])
    (hfree : obstacle? (fs.node? place) = none) (c : Content) :
    SameOutline fs (fs.put place (.file c)) := by
  refine ⟨rfl, fun other => ?_⟩
  rw [node?_put fs hp]
  by_cases ho : place = other
  · rw [if_pos ho, ← ho, hfree]
    rfl
  · rw [if_neg ho]

/-! ## §2. Ends of walks. -/

/-- Where a walk ends, with what stands in the way of a write there. -/
def endOf : Except Fault Target → Option (Location × Option Node)
  | .error _ => none
  | .ok (.free place) => some (place, none)
  | .ok (.found place node) => some (place, obstacle? (some node))

/-- A step to a name where nothing stands in the way ends the walk. -/
theorem endOf_walk_open (fs : FileSystem) {follow : Bool} {links : Nat} {here : Location}
    {name : String} {rest : List Path.Step} (hshort : ¬ maxName < byteLength name.toList)
    (hopen : obstacle? (fs.node? (here ++ [name])) = none) :
    endOf (fs.walk follow links here (.named name :: rest)) =
      if rest.isEmpty then some (here ++ [name], none) else none := by
  rw [walk, if_neg hshort]
  rcases (obstacle?_eq_none_iff _).mp hopen with hnode | ⟨c, hnode⟩
  · cases hend : rest.isEmpty <;> simp [hnode, endOf]
  · cases hend : rest.isEmpty <;> simp [hnode, endOf]

/-- **The same outline, the same ends.** -/
theorem endOf_walk {before after : FileSystem} (h : SameOutline before after) (follow : Bool)
    (links : Nat) (here : Location) (steps : List Path.Step) :
    endOf (after.walk follow links here steps) = endOf (before.walk follow links here steps) := by
  -- The recursion of the walk in the file system before; the walk after unfolds beside it.
  fun_induction walk before follow links here steps with
  | case1 links here =>
      rw [walk]
  | case2 links here rest ih =>
      rw [walk]
      exact ih
  | case3 links here rest ih =>
      rw [walk]
      exact ih
  | case4 links here name rest hlong =>
      rw [walk, if_pos hlong]
  -- Nothing stands in the way, be it that the name is free or that it is a file's.
  | case5 links here name rest place hshort hnode hend =>
      have hopen : obstacle? (after.node? place) = none := by
        rw [h.obstacle place, hnode]
        rfl
      rw [endOf_walk_open after hshort hopen, if_pos hend]
      rfl
  | case6 links here name rest place hshort hnode hend =>
      have hopen : obstacle? (after.node? place) = none := by
        rw [h.obstacle place, hnode]
        rfl
      rw [endOf_walk_open after hshort hopen, if_neg hend]
      rfl
  -- A directory is there in both.
  | case7 links here name rest place hshort hnode ih =>
      rw [walk, if_neg hshort]
      have hafter : after.node? (here ++ [name]) = some .directory :=
        h.node?_eq (by rw [hnode]; rfl)
      simp only [hafter]
      exact ih
  | case8 links here name rest place hshort content hnode hend =>
      have hopen : obstacle? (after.node? place) = none := by
        rw [h.obstacle place, hnode]
        rfl
      rw [endOf_walk_open after hshort hopen, if_pos hend]
      rfl
  | case9 links here name rest place hshort content hnode hend =>
      have hopen : obstacle? (after.node? place) = none := by
        rw [h.obstacle place, hnode]
        rfl
      rw [endOf_walk_open after hshort hopen, if_neg hend]
      rfl
  -- A link is there in both: the end, too many links, or the way on.
  | case10 links here name rest place hshort target hnode hstop =>
      rw [walk, if_neg hshort]
      have hafter : after.node? (here ++ [name]) = some (.link target) :=
        h.node?_eq (by rw [hnode]; rfl)
      simp only [hafter, hstop, if_true]
      rfl
  | case11 here name rest place hshort target hnode hgo =>
      rw [walk, if_neg hshort]
      have hafter : after.node? (here ++ [name]) = some (.link target) :=
        h.node?_eq (by rw [hnode]; rfl)
      simp only [hafter, hgo]
      rfl
  | case12 here name rest place hshort target hnode hgo left ih =>
      rw [walk, if_neg hshort]
      have hafter : after.node? (here ++ [name]) = some (.link target) :=
        h.node?_eq (by rw [hnode]; rfl)
      simp only [hafter, hgo]
      exact ih

theorem endOf_resolveFrom {before after : FileSystem} (h : SameOutline before after)
    (follow : Bool) (here : Location) (p : Path) :
    endOf (after.resolveFrom follow here p) = endOf (before.resolveFrom follow here p) := by
  unfold resolveFrom
  split
  · rfl
  · split
    · rfl
    · split
      · rfl
      · exact endOf_walk h follow maxLinks (startOf here p) p.steps

/-- A walk to a place where nothing stands in the way ends there at a file or at nothing,
and not at the root. -/
theorem target_of_endOf_walk {fs : FileSystem} {follow : Bool} {links : Nat} {here : Location}
    {steps : List Path.Step} {place : Location}
    (h : endOf (fs.walk follow links here steps) = some (place, none)) :
    place ≠ [] ∧
      (fs.walk follow links here steps = .ok (.free place) ∧ fs.node? place = none ∨
        ∃ c, fs.walk follow links here steps = .ok (.found place (.file c)) ∧
          fs.node? place = some (.file c)) := by
  fun_induction walk fs follow links here steps with
  | case1 links here => cases h
  | case2 links here rest ih => exact ih h
  | case3 links here rest ih => exact ih h
  | case4 links here name rest hlong => cases h
  | case5 links here name rest place' hshort hnode hend =>
      obtain rfl : place' = place := by simpa [endOf] using h
      exact ⟨by simp [place'], .inl ⟨rfl, hnode⟩⟩
  | case6 links here name rest place' hshort hnode hend => cases h
  | case7 links here name rest place' hshort hnode ih => exact ih h
  | case8 links here name rest place' hshort content hnode hend =>
      obtain rfl : place' = place := by simpa [endOf] using h
      exact ⟨by simp [place'], .inr ⟨content, rfl, hnode⟩⟩
  | case9 links here name rest place' hshort content hnode hend => cases h
  | case10 links here name rest place' hshort target hnode hstop => simp [endOf] at h
  | case11 here name rest place' hshort target hnode hgo => cases h
  | case12 here name rest place' hshort target hnode hgo left ih => exact ih h

/-! ## §3. The place of a write. -/

/-- A path is written to the place where it ends, if nothing stands in the way there. -/
theorem placeToWrite_eq_ok_iff (fs : FileSystem) (p : Path) (place : Location) :
    fs.placeToWrite p = .ok place ↔
      endOf (fs.resolveFrom true fs.current p) = some (place, none) := by
  unfold placeToWrite
  cases fs.resolveFrom true fs.current p with
  | error e =>
      -- No way is left to a place: what follows only picks the fault.
      refine ⟨fun h => ?_, fun h => by cases h⟩
      dsimp only at h
      split at h
      · split at h <;> cases h
      · cases h
  | ok target =>
      cases target with
      | free found => simp [endOf]
      | found found node => cases node <;> simp [endOf]

/-- **Writes do not turn a path to another place.** -/
theorem placeToWrite_eq {before after : FileSystem} (h : SameOutline before after) (p : Path)
    (place : Location) :
    after.placeToWrite p = .ok place ↔ before.placeToWrite p = .ok place := by
  rw [placeToWrite_eq_ok_iff, placeToWrite_eq_ok_iff, h.current, endOf_resolveFrom h]

/-- A way that ends where nothing stands in the way is a walk. -/
theorem resolveFrom_eq_walk {fs : FileSystem} {follow : Bool} {here : Location} {p : Path}
    {e : Location × Option Node} (h : endOf (fs.resolveFrom follow here p) = some e) :
    fs.resolveFrom follow here p = fs.walk follow maxLinks (startOf here p) p.steps := by
  unfold resolveFrom at h ⊢
  split at h
  · cases h
  · rename_i h1
    split at h
    · cases h
    · rename_i h2
      split at h
      · cases h
      · rename_i h3
        rw [if_neg h1, if_neg h2, if_neg h3]

/-- What a path that can be written to leads to. -/
theorem target_of_placeToWrite {fs : FileSystem} {p : Path} {place : Location}
    (h : fs.placeToWrite p = .ok place) :
    place ≠ [] ∧
      (fs.resolveFrom true fs.current p = .ok (.free place) ∧ fs.node? place = none ∨
        ∃ c, fs.resolveFrom true fs.current p = .ok (.found place (.file c)) ∧
          fs.node? place = some (.file c)) := by
  rw [placeToWrite_eq_ok_iff] at h
  have hwalk := resolveFrom_eq_walk h
  rw [hwalk] at h ⊢
  exact target_of_endOf_walk h

theorem ne_nil_of_placeToWrite {fs : FileSystem} {p : Path} {place : Location}
    (h : fs.placeToWrite p = .ok place) : place ≠ [] :=
  (target_of_placeToWrite h).1

theorem obstacle?_of_placeToWrite {fs : FileSystem} {p : Path} {place : Location}
    (h : fs.placeToWrite p = .ok place) : obstacle? (fs.node? place) = none := by
  rw [obstacle?_eq_none_iff]
  rcases target_of_placeToWrite h with ⟨-, ⟨-, hnode⟩ | ⟨c, -, hnode⟩⟩
  · exact .inl hnode
  · exact .inr ⟨c, hnode⟩

/-! ## §4. Writing and reading. -/

/-- A write puts the file at the place of the path. -/
theorem write_eq_ok_iff (fs : FileSystem) (p : Path) (content : Content) (after : FileSystem) :
    fs.write p content = .ok after ↔
      ∃ place, fs.placeToWrite p = .ok place ∧ after = fs.put place (.file content) := by
  unfold write
  cases fs.placeToWrite p with
  | error e => simp [Except.map]
  | ok place => simp [Except.map, eq_comm]

/-- **A write leaves the outline as it is.** -/
theorem sameOutline_of_write {fs after : FileSystem} {p : Path} {content : Content}
    (h : fs.write p content = .ok after) : SameOutline fs after := by
  obtain ⟨place, hplace, rfl⟩ := (write_eq_ok_iff fs p content after).mp h
  exact sameOutline_put fs (ne_nil_of_placeToWrite hplace) (obstacle?_of_placeToWrite hplace)
    content

/-- **A write changes the place of the path and no other.** -/
theorem node?_write {fs after : FileSystem} {p : Path} {content : Content} {place : Location}
    (h : fs.write p content = .ok after) (hplace : fs.placeToWrite p = .ok place)
    (other : Location) :
    after.node? other = if place = other then some (.file content) else fs.node? other := by
  obtain ⟨place', hplace', rfl⟩ := (write_eq_ok_iff fs p content after).mp h
  obtain rfl : place' = place := Except.ok.inj (hplace'.symm.trans hplace)
  exact node?_put fs (ne_nil_of_placeToWrite hplace) other (.file content)

/-- A path to a file is written to where the file lies. -/
theorem placeToWrite_of_find {fs : FileSystem} {p : Path} {place : Location} {c : Content}
    (h : fs.find true p = .ok (place, .file c)) :
    fs.placeToWrite p = .ok place ∧ fs.node? place = some (.file c) := by
  unfold find at h
  split at h
  · cases h
  · rename_i found node htarget
    obtain ⟨rfl, rfl⟩ : found = place ∧ node = .file c := by simpa using h
    have hplace : fs.placeToWrite p = .ok found := by
      unfold placeToWrite
      rw [htarget]
    refine ⟨hplace, ?_⟩
    rcases target_of_placeToWrite hplace with ⟨-, ⟨hfree, -⟩ | ⟨d, hfound, hfile⟩⟩
    · rw [htarget] at hfree
      cases hfree
    · rw [htarget] at hfound
      obtain rfl : c = d := by simpa using hfound
      exact hfile
  · cases h

/-- A path that is written to where a file lies leads to the file. -/
theorem find_of_placeToWrite {fs : FileSystem} {p : Path} {place : Location} {c : Content}
    (hplace : fs.placeToWrite p = .ok place) (hnode : fs.node? place = some (.file c)) :
    fs.find true p = .ok (place, .file c) := by
  rcases target_of_placeToWrite hplace with ⟨-, ⟨-, hfree⟩ | ⟨d, hfound, hfile⟩⟩
  · rw [hfree] at hnode
    cases hnode
  · rw [hfile] at hnode
    obtain rfl : d = c := by simpa using hnode
    unfold find
    rw [hfound]

/-- Reading gives the text at the place where the path is written to. -/
theorem readText_of_node {fs : FileSystem} {p : Path} {place : Location} {s : String}
    (hplace : fs.placeToWrite p = .ok place) (hnode : fs.node? place = some (.file (.text s))) :
    fs.readText p = .ok s := by
  unfold readText
  rw [find_of_placeToWrite hplace hnode]

/-- **Writes elsewhere leave a path to its file.** -/
theorem find_of_sameOutline {before after : FileSystem} (h : SameOutline before after) {p : Path}
    {place : Location} {c d : Content} (hfind : before.find true p = .ok (place, .file c))
    (hnode : after.node? place = some (.file d)) : after.find true p = .ok (place, .file d) :=
  find_of_placeToWrite ((placeToWrite_eq h p place).mpr (placeToWrite_of_find hfind).1) hnode

end Fanout.Files.FileSystem
