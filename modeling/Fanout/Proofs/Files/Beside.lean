/-
  Fanout.Proofs.Files.Beside
  ──────────────────────────
  **Files beside sources.**

  Sources are told by the extension of their names.  Two file systems that
  differ only in files with other names are the same to whoever looks for
  sources (`SameSources`): every path of a source leads to the same file in
  both of them.

    • `IsSideName` — the names that no source has,
    • `sameSources_put` — a file under such a name makes no difference,
    • `SameSources.find_file`, `SameSources.find_directory`,
      `SameSources.load` — paths of sources lead to the same.
-/
import Fanout.Proofs.Files.Places
import Fanout.Source.Read
import Fanout.Source.Search

namespace Fanout

open Fanout.Files

/-! ## §1. Names. -/

instance (name : List Char) : Decidable (Path.Plain name) :=
  decidable_of_iff ('/' ∉ name ∧ Path.stepOf? name = some (.named (String.ofList name)))
    ⟨fun ⟨noSlash, step⟩ => ⟨noSlash, step⟩, fun ⟨noSlash, step⟩ => ⟨noSlash, step⟩⟩

/-- A name that a file can have beside sources: it leads down and carries another extension. -/
structure IsSideName (extension name : String) : Prop where
  /-- It is one step downwards. -/
  plain : Path.Plain name.toList
  /-- It does not carry the extension of sources. -/
  other : (Path.cutName name.toList).2 ≠ some extension.toList

instance (extension name : String) : Decidable (IsSideName extension name) :=
  decidable_of_iff
    (Path.Plain name.toList ∧ (Path.cutName name.toList).2 ≠ some extension.toList)
    ⟨fun ⟨plain, other⟩ => ⟨plain, other⟩, fun ⟨plain, other⟩ => ⟨plain, other⟩⟩

/-- The last name of the path of a source is none. -/
theorem not_isSideName {extension : String} {p : Path} (hp : isSourcePath extension p = true)
    {name : List Char} (hname : p.fileName? = some name) :
    ¬ IsSideName extension (String.ofList name) := by
  intro hside
  have hother := hside.other
  rw [String.toList_ofList] at hother
  unfold isSourcePath Path.extension? at hp
  rw [hname, Option.bind_some, beq_iff_eq] at hp
  exact hother hp

/-- A path to such a name is not that of a source. -/
theorem isSourcePath_join {extension name : String} (h : IsSideName extension name) (p : Path) :
    isSourcePath extension (p.join name.toList) = false := by
  unfold isSourcePath Path.extension?
  rw [Path.fileName?_join p h.plain, Option.bind_some, beq_eq_false_iff_ne]
  exact h.other

/-! ## §2. Sources. -/

namespace Files.FileSystem

/-- There is no link among the nodes. -/
def NoLinks (fs : FileSystem) : Prop := ∀ e ∈ fs.nodes, ∀ target, e.2 ≠ .link target

/-- No place is a link then. -/
theorem NoLinks.linkFree {fs : FileSystem} (h : fs.NoLinks) : fs.LinkFree := by
  intro place target hnode
  unfold node? at hnode
  split at hnode
  · cases hnode
  · exact h _ (Assoc.mem_of_get? hnode) target rfl

/-- Can the search for sources come upon a node with a name?  Only files with the names that no
source has do not count. -/
def isSeenAs (extension name : String) : Node → Bool
  | .file _ => !decide (IsSideName extension name)
  | _ => true

/-- The same for a node and its place. -/
def isSeen (extension : String) (e : Location × Node) : Bool :=
  match e.1.getLast? with
  | some name => isSeenAs extension name e.2
  | none => true

/-- Two file systems that differ only in files with the names that no source has. -/
structure SameSources (extension : String) (before after : FileSystem) : Prop where
  /-- The same stands in the way of writes. -/
  outline : SameOutline before after
  /-- All other nodes are the same, in the same order. -/
  seen : after.nodes.filter (isSeen extension) = before.nodes.filter (isSeen extension)

variable {extension : String} {a b c before after : FileSystem}

theorem SameOutline.symm (h : SameOutline a b) : SameOutline b a :=
  ⟨h.current.symm, fun place => (h.obstacle place).symm⟩

namespace SameSources

theorem refl (extension : String) (fs : FileSystem) : SameSources extension fs fs :=
  ⟨.refl fs, rfl⟩

theorem symm (h : SameSources extension a b) : SameSources extension b a :=
  ⟨h.outline.symm, h.seen.symm⟩

theorem trans (hab : SameSources extension a b) (hbc : SameSources extension b c) :
    SameSources extension a c :=
  ⟨hab.outline.trans hbc.outline, hbc.seen.trans hab.seen⟩

end SameSources

@[simp] theorem isSeen_append (extension : String) (here : Location) (name : String)
    (node : Node) : isSeen extension (here ++ [name], node) = isSeenAs extension name node := by
  unfold isSeen
  rw [List.getLast?_concat]

/-- **A file under a name that no source has makes no difference.** -/
theorem sameSources_put (fs : FileSystem) {here : Location} {name : String}
    (hside : IsSideName extension name) (hopen : obstacle? (fs.node? (here ++ [name])) = none)
    (content : Content) :
    SameSources extension fs (fs.put (here ++ [name]) (.file content)) := by
  have hne : here ++ [name] ≠ [] := by simp
  have hunseen : ∀ c, isSeen extension (here ++ [name], .file c) = false := by
    intro c
    rw [isSeen_append, isSeenAs, decide_eq_true hside]
    rfl
  refine ⟨sameOutline_put fs hne hopen content, ?_⟩
  refine Assoc.filter_put (hunseen content) fun v hv => ?_
  have hnode : fs.node? (here ++ [name]) = some v := by
    unfold node?
    rw [if_neg hne]
    exact hv
  rw [hnode, obstacle?_eq_none_iff] at hopen
  rcases hopen with hnone | ⟨c, hfile⟩
  · cases hnone
  · obtain rfl := Option.some.inj hfile
    exact hunseen c

namespace SameSources

/-- **Under all other names the same is there.** -/
theorem node?_eq (h : SameSources extension before after) {here : Location} {name : String}
    (hname : ¬ IsSideName extension name) :
    after.node? (here ++ [name]) = before.node? (here ++ [name]) := by
  have hne : here ++ [name] ≠ [] := by simp
  have hseen : ∀ node, isSeen extension (here ++ [name], node) = true := by
    intro node
    rw [isSeen_append]
    cases node with
    | file c =>
        rw [isSeenAs, decide_eq_false hname]
        rfl
    | directory => rfl
    | link target => rfl
  unfold node?
  rw [if_neg hne, if_neg hne, ← Assoc.get?_filter hseen, h.seen, Assoc.get?_filter hseen]

/-- Where there are no links in the one, there are none in the other. -/
theorem noLinks (h : SameSources extension before after) (hfree : before.NoLinks) :
    after.NoLinks := by
  rintro ⟨place, node⟩ he target rfl
  have hseen : isSeen extension (place, .link target) = true := by
    unfold isSeen
    split
    · rfl
    · rfl
  have hmem : (place, .link target) ∈ before.nodes.filter (isSeen extension) := by
    rw [← h.seen]
    exact List.mem_filter.mpr ⟨he, hseen⟩
  exact hfree _ (List.mem_filter.mp hmem).1 target rfl

/-- **A path of a source leads to the same file.** -/
theorem find_file (h : SameSources extension before after) (hfree : before.LinkFree) {p : Path}
    (hp : isSourcePath extension p = true) {home : Location} {c : Content}
    (hfind : before.find true p = .ok (home, .file c)) :
    after.find true p = .ok (home, .file c) := by
  obtain ⟨name, hname, hhome⟩ := home_eq_of_find hfree hfind
  have hnode : after.node? (before.folderOf p ++ [String.ofList name]) =
      before.node? (before.folderOf p ++ [String.ofList name]) :=
    h.node?_eq (not_isSideName hp hname)
  rw [← hhome, (placeToWrite_of_find hfind).2] at hnode
  exact find_of_sameOutline h.outline hfind hnode

end SameSources

/-- **What stands in the way stays at the end of its path.** -/
theorem find_of_obstacle? (h : SameOutline before after) {follow : Bool} {p : Path}
    {place : Location} {node : Node} (hfind : before.find follow p = .ok (place, node))
    (hnode : obstacle? (some node) = some node) : after.find follow p = .ok (place, node) := by
  unfold find at hfind
  split at hfind
  · cases hfind
  · rename_i found seen htarget
    obtain ⟨rfl, rfl⟩ := Prod.mk.inj (Except.ok.inj hfind)
    have hend := endOf_resolveFrom h follow before.current p
    rw [htarget, endOf, hnode, ← h.current] at hend
    unfold find
    cases hafter : after.resolveFrom follow after.current p with
    | error e =>
        rw [hafter] at hend
        cases hend
    | ok target =>
        rw [hafter] at hend
        cases target with
        | free other => simp [endOf] at hend
        | found other there =>
            obtain ⟨rfl, hthere⟩ := Prod.mk.inj (Option.some.inj hend)
            obtain rfl := Option.some.inj (eq_of_obstacle? hthere)
            rfl
  · cases hfind

namespace SameSources

theorem find_directory (h : SameSources extension before after) {follow : Bool} {p : Path}
    {place : Location} (hfind : before.find follow p = .ok (place, .directory)) :
    after.find follow p = .ok (place, .directory) :=
  find_of_obstacle? h.outline hfind rfl

/-- The same paths lead to directories. -/
theorem isDirectory_eq (h : SameSources extension before after) (p : Path) :
    after.isDirectory p = before.isDirectory p := by
  have hone : ∀ {a b : FileSystem}, SameSources extension a b → a.isDirectory p = true →
      b.isDirectory p = true := by
    intro a b hab ha
    unfold isDirectory at ha ⊢
    split at ha
    · rename_i place hfind
      rw [hab.find_directory hfind]
    · cases ha
  exact Bool.eq_iff_iff.mpr ⟨hone h.symm, hone h⟩

/-- A path of a source that leads anywhere does so in both. -/
theorem hasNode (h : SameSources extension before after) (hfree : before.LinkFree) {p : Path}
    (hp : isSourcePath extension p = true) (hnode : before.hasNode p = true) :
    after.hasNode p = true := by
  unfold FileSystem.hasNode at hnode ⊢
  split at hnode
  · rename_i found hfind
    obtain ⟨place, node⟩ := found
    cases node with
    | file c => rw [h.find_file hfree hp hfind]
    | directory => rw [h.find_directory hfind]
    | link target => rw [find_of_obstacle? h.outline hfind rfl]
  · cases hnode

end SameSources

/-- What is read is the text of a file. -/
theorem exists_find_of_readText {fs : FileSystem} {p : Path} {text : String}
    (h : fs.readText p = .ok text) : ∃ place, fs.find true p = .ok (place, .file (.text text)) := by
  unfold readText at h
  split at h
  · cases h
  · rename_i place s hfind
    obtain rfl := Except.ok.inj h
    exact ⟨place, hfind⟩
  · cases h
  · cases h
  · cases h

/-- **A source that can be read is the same in both.** -/
theorem SameSources.load (h : SameSources extension before after) (hfree : before.LinkFree)
    {p : Path} (hp : isSourcePath extension p = true) {s : Source}
    (hload : Source.load before p = .ok s) : Source.load after p = .ok s := by
  unfold Source.load at hload ⊢
  split at hload
  · cases hload
  · rename_i text hread
    obtain ⟨place, hfind⟩ := exists_find_of_readText hread
    unfold readText
    rw [h.find_file hfree hp hfind]
    exact hload

end Files.FileSystem

end Fanout
