/-
  Fanout.Proofs.Source.Rediscovery
  ────────────────────────────────
  **The same sources, found again.**

  Where there are no links a search goes down from place to place, each a
  node of the file system, so that it ends before any depth that is greater
  than the number of nodes.  Files with the names that no source has come
  between the others in the order of the names, but what is found of
  sources stays the same:

    • `filter_mergeSort` — sorting and leaving out can change places,
    • `filesBelow_sources` — the sources below a place, in two file systems
      with the same sources,
    • `SameSources.unusable`, `SameSources.sourcesFound_eq` — arguments
      can be used and stand for sources alike.
-/
import Mathlib.Data.List.Basic
import Fanout.Proofs.Files.Beside
import Fanout.Proofs.Source.Search

namespace Fanout

open Fanout.Files

/-! ## §1. Sorting. -/

section Sorting

variable {α : Type} {le : α → α → Bool}

/-- Where a list is cut by an order is told by its members. -/
theorem append_inj_of_cut {q : α → Bool} {l₁ l₂ m₁ m₂ : List α} (h : l₁ ++ l₂ = m₁ ++ m₂)
    (hl₁ : ∀ b ∈ l₁, q b = true) (hl₂ : ∀ b ∈ l₂, q b = false) (hm₁ : ∀ b ∈ m₁, q b = true)
    (hm₂ : ∀ b ∈ m₂, q b = false) : l₁ = m₁ ∧ l₂ = m₂ := by
  have hfilter : ∀ {a b : List α}, (∀ x ∈ a, q x = true) → (∀ x ∈ b, q x = false) →
      (a ++ b).filter q = a := by
    intro a b ha hb
    have hnone : b.filter q = [] := List.filter_eq_nil_iff.mpr fun x hx => by simp [hb x hx]
    rw [List.filter_append, List.filter_eq_self.mpr ha, hnone, List.append_nil]
  have hcut := congrArg (List.filter q) h
  rw [hfilter hl₁ hl₂, hfilter hm₁ hm₂] at hcut
  subst hcut
  exact ⟨rfl, List.append_cancel_left h⟩

/-- **Sorting and leaving out can change places.** -/
theorem filter_mergeSort (trans : ∀ a b c, le a b = true → le b c = true → le a c = true)
    (total : ∀ a b, (le a b || le b a) = true) (p : α → Bool) (l : List α) :
    (l.mergeSort le).filter p = (l.filter p).mergeSort le := by
  induction l with
  | nil => rw [List.mergeSort_nil, List.filter_nil, List.mergeSort_nil]
  | cons a l ih =>
      obtain ⟨l₁, l₂, hsorted, hrest, hbefore⟩ := List.mergeSort_cons trans total a l
      rw [hsorted, List.filter_append]
      rw [hrest, List.filter_append] at ih
      by_cases ha : p a = true
      · rw [List.filter_cons_of_pos ha, List.filter_cons_of_pos ha]
        obtain ⟨m₁, m₂, hsorted', hrest', hbefore'⟩ :=
          List.mergeSort_cons trans total a (l.filter p)
        -- Both lists are cut where the members begin that do not come before `a`.
        have hbehind : ∀ {front back whole : List α}, (a :: whole).mergeSort le =
            front ++ a :: back → ∀ b ∈ back, (!le a b) = false := by
          intro front back whole hwhole b hb
          have hpairs := List.pairwise_mergeSort trans total (a :: whole)
          rw [hwhole] at hpairs
          have hle := List.rel_of_pairwise_cons (List.pairwise_append.mp hpairs).2.1 hb
          rw [hle]
          rfl
        obtain ⟨h₁, h₂⟩ := append_inj_of_cut (ih.trans hrest')
          (fun b hb => hbefore b (List.mem_filter.mp hb).1)
          (fun b hb => hbehind hsorted b (List.mem_filter.mp hb).1) hbefore' (hbehind hsorted')
        rw [hsorted', h₁, h₂]
      · rw [List.filter_cons_of_neg ha, List.filter_cons_of_neg ha]
        exact ih

end Sorting

/-! ## §2. One directory. -/

namespace Files.FileSystem

variable {extension : String} {a b : FileSystem}

/-- Members are ordered by their names. -/
theorem byName_trans (a b c : String × Node) (hab : decide (a.1 ≤ b.1) = true)
    (hbc : decide (b.1 ≤ c.1) = true) : decide (a.1 ≤ c.1) = true := by
  rw [decide_eq_true_iff] at hab hbc ⊢
  exact String.le_trans hab hbc

/-- Any two of them are in order one way or the other. -/
theorem byName_total (a b : String × Node) :
    (decide (a.1 ≤ b.1) || decide (b.1 ≤ a.1)) = true := by
  rw [Bool.or_eq_true, decide_eq_true_iff, decide_eq_true_iff]
  exact String.le_total a.1 b.1

/-- **A directory has the same members in both**, apart from files with the names that no source
has. -/
theorem SameSources.filter_children (h : SameSources extension a b) (directory : Location) :
    (b.children directory).filter (fun child => isSeenAs extension child.1 child.2) =
      (a.children directory).filter (fun child => isSeenAs extension child.1 child.2) := by
  -- A member can be come upon by its name as its node can by its place.
  have hmember : ∀ e : Location × Node,
      ((nameIn? directory e.1).map fun name => (name, e.2)).filter
          (fun child => isSeenAs extension child.1 child.2) =
        if isSeen extension e = true then (nameIn? directory e.1).map fun name => (name, e.2)
        else none := by
    rintro ⟨place, node⟩
    unfold nameIn? isSeen
    dsimp only
    cases place.getLast? with
    | none => rfl
    | some name =>
        dsimp only
        by_cases hfolder : place.dropLast = directory
        · rw [if_pos hfolder]
          rfl
        · rw [if_neg hfolder]
          split
          · rfl
          · rfl
  have hsort : ∀ fs : FileSystem,
      (fs.children directory).filter (fun child => isSeenAs extension child.1 child.2) =
        (((fs.nodes.filter (isSeen extension)).filterMap fun e =>
          (nameIn? directory e.1).map fun name => (name, e.2)).mergeSort
            fun a b => decide (a.1 ≤ b.1)) := by
    intro fs
    unfold children
    rw [filter_mergeSort, List.filter_filterMap, List.filterMap_filter]
    · congr 1
      exact List.filterMap_congr fun e _ => hmember e
    · exact byName_trans
    · exact byName_total
  rw [hsort a, hsort b, h.seen]

/-- A place lies in a directory under its last name. -/
theorem nameIn?_eq_some_iff {directory place : Location} {name : String} :
    nameIn? directory place = some name ↔ place = directory ++ [name] := by
  unfold nameIn?
  constructor
  · intro h
    split at h
    · rename_i last hlast
      split at h
      · rename_i hfolder
        obtain rfl := Option.some.inj h
        obtain ⟨front, rfl⟩ := List.getLast?_eq_some_iff.mp hlast
        rw [List.dropLast_concat] at hfolder
        rw [hfolder]
      · cases h
    · cases h
  · rintro rfl
    rw [List.getLast?_concat]
    dsimp only
    rw [List.dropLast_concat, if_pos rfl]

/-- The members of a directory are nodes below it. -/
theorem mem_nodes_of_mem_children {fs : FileSystem} {directory : Location} {name : String}
    {node : Node} (h : (name, node) ∈ fs.children directory) :
    (directory ++ [name], node) ∈ fs.nodes := by
  unfold children at h
  rw [List.mem_mergeSort] at h
  obtain ⟨⟨place, found⟩, hmem, hname⟩ := List.mem_filterMap.mp h
  obtain ⟨last, hlast, he⟩ := Option.map_eq_some_iff.mp hname
  obtain ⟨rfl, rfl⟩ := Prod.mk.inj he
  rw [← nameIn?_eq_some_iff.mp hlast]
  exact hmem

/-- The number of nodes with longer places. -/
def countBelow (fs : FileSystem) (place : Location) : Nat :=
  fs.nodes.countP fun e => decide (place.length < e.1.length)

/-- There are fewer of them a step further down. -/
theorem countBelow_lt {fs : FileSystem} {place : Location} {name : String} {node : Node}
    (h : (place ++ [name], node) ∈ fs.nodes) :
    fs.countBelow (place ++ [name]) < fs.countBelow place := by
  obtain ⟨front, back, hsplit⟩ := List.append_of_mem h
  have hmono : ∀ es : List (Location × Node),
      es.countP (fun e => decide ((place ++ [name]).length < e.1.length)) ≤
        es.countP (fun e => decide (place.length < e.1.length)) := by
    intro es
    apply List.countP_mono_left
    intro e _ he
    rw [decide_eq_true_iff, List.length_append] at he
    rw [decide_eq_true_iff]
    omega
  have hfront := hmono front
  have hback := hmono back
  -- The node itself counts above, but not below.
  unfold countBelow
  rw [hsplit, List.countP_append, List.countP_append, List.countP_cons_of_neg (by simp),
    List.countP_cons_of_pos (by simp)]
  omega

end Files.FileSystem

/-! ## §3. Everything below. -/

section Collect

variable {ε α β : Type} {f g : α → Except ε (List β)}

theorem collect_congr {l : List α} (h : ∀ a ∈ l, f a = g a) : collect f l = collect g l := by
  induction l with
  | nil => rfl
  | cons a l ih =>
      have hmore := ih fun b hb => h b (List.mem_cons_of_mem a hb)
      rw [collect, collect, h a List.mem_cons_self, hmore]

/-- Results are put together in order. -/
theorem collect_ok {r : α → List β} {l : List α} (h : ∀ a ∈ l, f a = .ok (r a)) :
    collect f l = .ok (l.flatMap r) := by
  induction l with
  | nil => rfl
  | cons a l ih =>
      rw [collect, h a List.mem_cons_self, ih fun b hb => h b (List.mem_cons_of_mem a hb)]
      rfl

/-- Results can be left out before they are put together. -/
theorem map_filter_collect (p : β → Bool) (l : List α) :
    (collect f l).map (List.filter p) = collect (fun a => (f a).map (List.filter p)) l := by
  induction l with
  | nil => rfl
  | cons a l ih =>
      rw [collect, collect]
      cases f a with
      | error e => rfl
      | ok found =>
          show ((collect f l).map (found ++ ·)).map (List.filter p) =
            (collect (fun a => (f a).map (List.filter p)) l).map (found.filter p ++ ·)
          rw [← ih]
          cases collect f l with
          | error e => rfl
          | ok more => exact congrArg Except.ok (List.filter_append ..)

/-- Members without results can be left out. -/
theorem collect_filter {q : α → Bool} {l : List α} (h : ∀ a ∈ l, q a = false → f a = .ok []) :
    collect f (l.filter q) = collect f l := by
  induction l with
  | nil => rfl
  | cons a l ih =>
      have hmore := ih fun b hb => h b (List.mem_cons_of_mem a hb)
      by_cases ha : q a = true
      · rw [List.filter_cons_of_pos ha, collect, collect, hmore]
      · rw [List.filter_cons_of_neg ha, collect, h a List.mem_cons_self (Bool.eq_false_iff.mpr ha),
          hmore]
        cases collect f l with
        | error e => rfl
        | ok more => rfl

end Collect

open Files.FileSystem

variable {extension : String} {a b : FileSystem}

/-- A file with a name that no source has is no source. -/
theorem filesBelow_unseen (fs : FileSystem) (depth : Nat) (opened : List Opened) (p : Path)
    (place : Location) {name : String} {node : Node} (h : isSeenAs extension name node = false) :
    (filesBelow fs depth opened (p.join name.toList) place node).map
      (List.filter (isSourcePath extension)) = .ok [] := by
  cases node with
  | file c =>
      rw [isSeenAs, Bool.not_eq_false', decide_eq_true_iff] at h
      cases depth with
      | zero =>
          rw [filesBelow]
          rfl
      | succ depth =>
          have hno : ¬ isSourcePath extension (p.join name.toList) = true := by
            rw [isSourcePath_join h]
            exact Bool.false_ne_true
          rw [filesBelow]
          exact congrArg Except.ok (List.filter_cons_of_neg hno)
  | directory => cases h
  | link target => cases h

/-- **The sources below a place are the same**, however deep the searches may go, as long as
neither ends at its depth. -/
theorem filesBelow_sources (h : SameSources extension a b) (hfree : a.NoLinks) (depth : Nat) :
    ∀ (depth' : Nat) (opened opened' : List Opened) (p : Path) (place : Location) (node : Node),
      a.countBelow place < depth → b.countBelow place < depth' →
      (∀ target, node ≠ .link target) →
      (filesBelow b depth' opened' p place node).map (List.filter (isSourcePath extension)) =
        (filesBelow a depth opened p place node).map (List.filter (isSourcePath extension)) := by
  -- Level by level: a member that is the same in both is searched with one level less.
  induction depth with
  | zero =>
      intro depth' opened opened' p place node ha
      exact absurd ha (Nat.not_lt_zero _)
  | succ depth ih =>
      intro depth' opened opened' p place node ha hb hnode
      cases depth' with
      | zero => exact absurd hb (Nat.not_lt_zero _)
      | succ depth' =>
          cases node with
          | file c => rw [filesBelow, filesBelow]
          | link target => exact absurd rfl (hnode target)
          | directory =>
              rw [filesBelow, filesBelow, filesBelow.searchIn, filesBelow.searchIn,
                map_filter_collect, map_filter_collect]
              have hunseen : ∀ (fs : FileSystem) (depth : Nat) (opened : List Opened),
                  ∀ child ∈ fs.children place, isSeenAs extension child.1 child.2 = false →
                    (filesBelow fs depth opened (p.join child.1.toList) (place ++ [child.1])
                      child.2).map (List.filter (isSourcePath extension)) = .ok [] :=
                fun fs depth opened child _ hchild =>
                  filesBelow_unseen fs depth opened p (place ++ [child.1]) hchild
              rw [← collect_filter (hunseen a depth _), ← collect_filter (hunseen b depth' _),
                h.filter_children place]
              refine collect_congr fun child hchild => ?_
              obtain ⟨name, node⟩ := child
              have hmemA := mem_nodes_of_mem_children (List.mem_filter.mp hchild).1
              rw [← h.filter_children place] at hchild
              have hmemB := mem_nodes_of_mem_children (List.mem_filter.mp hchild).1
              have hlessA := countBelow_lt hmemA
              have hlessB := countBelow_lt hmemB
              exact ih depth' _ _ (p.join name.toList) (place ++ [name]) node (by omega) (by omega)
                (hfree _ hmemA)

/-- No search comes to the depth at which it ends. -/
theorem countBelow_lt_depthLimit (fs : FileSystem) (place : Location) :
    fs.countBelow place < depthLimit fs := by
  have hcount : fs.countBelow place ≤ fs.nodes.length := List.countP_le_length
  have hlimit : fs.nodes.length + 1 ≤ depthLimit fs := Nat.le_mul_of_pos_right _ (by omega)
  omega

/-! ## §4. Arguments. -/

namespace Files.FileSystem

/-- Without links it does not matter whether they are followed. -/
theorem walk_eq_of_linkFree {fs : FileSystem} (hfree : fs.LinkFree) (follow : Bool) (links : Nat)
    (here : Location) (steps : List Path.Step) :
    fs.walk follow links here steps = fs.walk true links here steps := by
  fun_induction walk fs true links here steps with
  | case1 links here => rw [walk]
  | case2 links here rest ih => rw [walk]; exact ih
  | case3 links here rest ih => rw [walk]; exact ih
  | case4 links here name rest hlong => rw [walk, if_pos hlong]
  | case5 links here name rest place hshort hnode hend =>
      rw [walk, if_neg hshort]
      simp only [place] at hnode
      simp [hnode, hend, place]
  | case6 links here name rest place hshort hnode hend =>
      rw [walk, if_neg hshort]
      simp only [place] at hnode
      simp [hnode, hend]
  | case7 links here name rest place hshort hnode ih =>
      rw [walk, if_neg hshort]
      simp only [place] at hnode
      simp only [hnode]
      exact ih
  | case8 links here name rest place hshort content hnode hend =>
      rw [walk, if_neg hshort]
      simp only [place] at hnode
      simp [hnode, hend, place]
  | case9 links here name rest place hshort content hnode hend =>
      rw [walk, if_neg hshort]
      simp only [place] at hnode
      simp [hnode, hend]
  | case10 links here name rest place hshort target hnode hstop =>
      exact absurd hnode (hfree place target)
  | case11 here name rest place hshort target hnode hgo =>
      exact absurd hnode (hfree place target)
  | case12 here name rest place hshort target hnode hgo left ih =>
      exact absurd hnode (hfree place target)

theorem find_eq_of_linkFree {fs : FileSystem} (hfree : fs.LinkFree) (follow : Bool) (p : Path) :
    fs.find follow p = fs.find true p := by
  unfold find resolveFrom
  rw [walk_eq_of_linkFree hfree]

/-- A path that leads to a directory does so at once. -/
theorem find_of_isDirectory {fs : FileSystem} (hfree : fs.LinkFree) {p : Path}
    (h : fs.isDirectory p = true) (follow : Bool) :
    ∃ place, fs.find follow p = .ok (place, .directory) := by
  rw [find_eq_of_linkFree hfree]
  unfold isDirectory at h
  split at h
  · rename_i place hfind
    exact ⟨place, hfind⟩
  · cases h

/-- **The sources below a directory are the same.** -/
theorem SameSources.allFiles_sources (h : SameSources extension a b) (hfree : a.NoLinks) {p : Path}
    (hp : a.isDirectory p = true) :
    (allFiles b p).map (List.filter (isSourcePath extension)) =
      (allFiles a p).map (List.filter (isSourcePath extension)) := by
  obtain ⟨place, hfind⟩ := find_of_isDirectory hfree.linkFree hp false
  unfold allFiles
  rw [hfind, h.find_directory hfind]
  exact filesBelow_sources h hfree _ _ _ _ _ _ _ (countBelow_lt_depthLimit a place)
    (countBelow_lt_depthLimit b place) fun target => Node.noConfusion

/-- A directory stands for the sources among what is found below it. -/
theorem sourcesFound_of_isDirectory {fs : FileSystem} {p : Path} (h : fs.isDirectory p = true) :
    sourcesFound fs extension p =
      match (allFiles fs p).map (List.filter (isSourcePath extension)) with
      | .error _ => []
      | .ok found => found := by
  unfold sourcesFound
  rw [if_pos h]
  cases allFiles fs p with
  | error cause => rfl
  | ok found => rfl

/-- **An argument stands for the same sources.** -/
theorem SameSources.sourcesFound_eq (h : SameSources extension a b) (hfree : a.NoLinks) (p : Path) :
    sourcesFound b extension p = sourcesFound a extension p := by
  have hsame := h.isDirectory_eq p
  by_cases hdir : a.isDirectory p = true
  · rw [sourcesFound_of_isDirectory hdir, sourcesFound_of_isDirectory (hsame.trans hdir),
      h.allFiles_sources hfree hdir]
  · unfold sourcesFound
    rw [hsame, if_neg hdir, if_neg hdir]

/-- What an argument stands for are paths of sources. -/
theorem isSourcePath_of_mem_sourcesFound {fs : FileSystem} {arg p : Path}
    (harg : fs.isDirectory arg = true ∨ isSourcePath extension arg = true)
    (hp : p ∈ sourcesFound fs extension arg) : isSourcePath extension p = true := by
  unfold sourcesFound at hp
  split at hp
  · split at hp
    · exact absurd hp List.not_mem_nil
    · exact (List.mem_filter.mp hp).2
  · rename_i hdir
    rw [List.mem_singleton.mp hp]
    exact harg.resolve_left hdir

/-- **An argument that cannot be used in the one cannot be used in the other.** -/
theorem SameSources.unusable (h : SameSources extension a b) (hfree : a.NoLinks) {p : Path}
    (hp : a.isDirectory p = true ∨ isSourcePath extension p = true) (hbad : Unusable a p) :
    Unusable b p := by
  rcases hbad with hnode | ⟨hdir, cause, hall⟩
  · -- Nothing is there, so it is no directory.
    have hsource : isSourcePath extension p = true := by
      refine hp.resolve_left fun hdir => ?_
      rw [hasNode_of_isDirectory hdir] at hnode
      cases hnode
    refine .inl (Bool.eq_false_iff.mpr fun hafter => ?_)
    rw [h.symm.hasNode (h.noLinks hfree).linkFree hsource hafter] at hnode
    cases hnode
  · refine .inr ⟨(h.isDirectory_eq p).trans hdir, ?_⟩
    have hsame := h.allFiles_sources hfree hdir
    rw [hall] at hsame
    cases hmore : allFiles b p with
    | error cause => exact ⟨cause, rfl⟩
    | ok found =>
        rw [hmore] at hsame
        cases hsame

end Files.FileSystem

end Fanout
