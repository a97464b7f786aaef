/-
  Fanout.Proofs.Source.Listing
  ────────────────────────────
  **What a directory stands for.**

  Below a directory of a tree the search meets each file once.  It goes down
  into the members in the order of their names, so that all files below one
  member come before all files below the next: the whole list is sorted by
  names, level after level, as soon as every level is.

    • `mem_namesBelow_iff` — `namesBelow` leads to the files below a place,
    • `pairwise_namesBelow` — and ascends strictly,
    • `allFiles_eq` — the search finds the paths to these names,
    • `expandSources_listing` — what arguments stand for.
-/
import Fanout.Proofs.ByteOrder
import Fanout.Proofs.Component
import Fanout.Proofs.Source.Rediscovery

namespace Fanout

open Fanout.Files Fanout.Text

/-! ## §1. Trees. -/

namespace Files.FileSystem

/-- A tree of files and directories. -/
structure IsTree (fs : FileSystem) : Prop where
  /-- No place comes twice. -/
  unique : (Assoc.keys fs.nodes).Nodup
  /-- Every name on the way to a node is one step down. -/
  plain : ∀ e ∈ fs.nodes, ∀ name ∈ e.1, Path.Plain name.toList
  /-- A node lies in a directory. -/
  parent : ∀ (place : Location) (name : String) (node : Node),
    fs.node? (place ++ [name]) = some node → fs.node? place = some .directory
  /-- There is no link. -/
  noLinks : fs.NoLinks
  /-- The current directory is one. -/
  current : fs.node? fs.current = some .directory

variable {fs : FileSystem}

/-- What is at a place is a node with that place. -/
theorem node?_concat_iff (h : fs.IsTree) {place : Location} {name : String} {node : Node} :
    fs.node? (place ++ [name]) = some node ↔ (place ++ [name], node) ∈ fs.nodes := by
  have hne : place ++ [name] ≠ [] := by simp
  unfold node?
  rw [if_neg hne]
  exact ⟨Assoc.mem_of_get?, Assoc.get?_of_mem h.unique⟩

/-- Above a directory is a directory. -/
theorem node?_dropLast (h : fs.IsTree) {place : Location}
    (hplace : fs.node? place = some .directory) : fs.node? place.dropLast = some .directory := by
  rcases List.eq_nil_or_concat' place with rfl | ⟨front, name, rfl⟩
  · exact hplace
  · rw [List.dropLast_concat]
    exact h.parent front name _ hplace

/-- What a walk from a directory finds is there. -/
theorem node?_of_walk (h : fs.IsTree) {follow : Bool} {links : Nat} {here : Location}
    {steps : List Path.Step} {place : Location} {node : Node}
    (hwalk : fs.walk follow links here steps = .ok (.found place node))
    (hhere : fs.node? here = some .directory) : fs.node? place = some node := by
  fun_induction walk fs follow links here steps with
  | case1 links here =>
      obtain ⟨rfl, rfl⟩ : here = place ∧ Node.directory = node := by simpa using hwalk
      exact hhere
  | case2 links here rest ih => exact ih hwalk hhere
  | case3 links here rest ih => exact ih hwalk (node?_dropLast h hhere)
  | case4 links here name rest hlong => cases hwalk
  | case5 links here name rest found hshort hnode hend => cases hwalk
  | case6 links here name rest found hshort hnode hend => cases hwalk
  | case7 links here name rest found hshort hnode ih => exact ih hwalk hnode
  | case8 links here name rest found hshort content hnode hend =>
      obtain ⟨rfl, rfl⟩ : found = place ∧ Node.file content = node := by simpa using hwalk
      exact hnode
  | case9 links here name rest found hshort content hnode hend => cases hwalk
  | case10 links here name rest found hshort target hnode hstop =>
      exact absurd hnode (h.noLinks.linkFree found target)
  | case11 here name rest found hshort target hnode hgo =>
      exact absurd hnode (h.noLinks.linkFree found target)
  | case12 here name rest found hshort target hnode hgo left ih =>
      exact absurd hnode (h.noLinks.linkFree found target)

/-- **What a path leads to is there.** -/
theorem node?_of_find (h : fs.IsTree) {follow : Bool} {p : Path} {place : Location} {node : Node}
    (hfind : fs.find follow p = .ok (place, node)) : fs.node? place = some node := by
  have htarget : fs.resolveFrom follow fs.current p = .ok (.found place node) := by
    unfold find at hfind
    split at hfind
    · cases hfind
    · rename_i found there htarget
      obtain ⟨rfl, rfl⟩ := Prod.mk.inj (Except.ok.inj hfind)
      exact htarget
    · cases hfind
  have hstart : fs.node? (startOf fs.current p) = some .directory := by
    unfold startOf
    split
    · rfl
    · exact h.current
  have hwalk : fs.walk follow maxLinks (startOf fs.current p) p.steps =
      .ok (.found place node) := by
    unfold resolveFrom at htarget
    split at htarget
    · cases htarget
    · split at htarget
      · cases htarget
      · split at htarget
        · cases htarget
        · exact htarget
  exact node?_of_walk h hwalk hstart

/-- **The members of a directory are what lies one name below it.** -/
theorem mem_children_iff (h : fs.IsTree) {place : Location} {name : String} {node : Node} :
    (name, node) ∈ fs.children place ↔ fs.node? (place ++ [name]) = some node := by
  rw [node?_concat_iff h]
  constructor
  · exact mem_nodes_of_mem_children
  · intro hmem
    unfold children
    rw [List.mem_mergeSort]
    refine List.mem_filterMap.mpr ⟨(place ++ [name], node), hmem, ?_⟩
    simp [nameIn?]

/-- The names on the way to what is there lead down. -/
theorem plain_of_node (h : fs.IsTree) {place : Location} {node : Node}
    (hnode : fs.node? place = some node) : ∀ name ∈ place, Path.Plain name.toList := by
  intro name hname
  unfold node? at hnode
  rw [if_neg (List.ne_nil_of_mem hname)] at hnode
  exact h.plain _ (Assoc.mem_of_get? hnode) name hname

/-- **The members of a directory ascend strictly by their names.** -/
theorem pairwise_children (h : fs.IsTree) (place : Location) :
    (fs.children place).Pairwise fun a b => a.1 < b.1 := by
  have hsorted : (fs.children place).Pairwise fun a b => decide (a.1 ≤ b.1) = true :=
    List.pairwise_mergeSort byName_trans byName_total _
  -- Two members with one name would be two nodes with one place.
  have hdistinct : (fs.children place).Pairwise fun a b => a.1 ≠ b.1 := by
    unfold children
    refine (List.mergeSort_perm _ _).symm.pairwise ?_ fun hab => Ne.symm hab
    refine List.Pairwise.filterMap _ (fun e e' hplace a ha b hb hname => hplace ?_)
      (List.pairwise_map.mp h.unique)
    obtain ⟨one, hone, rfl⟩ := Option.map_eq_some_iff.mp ha
    obtain ⟨two, htwo, rfl⟩ := Option.map_eq_some_iff.mp hb
    obtain rfl : one = two := hname
    rw [nameIn?_eq_some_iff.mp hone, nameIn?_eq_some_iff.mp htwo]
  refine (hsorted.and hdistinct).imp fun hboth => ?_
  obtain ⟨hle, hne⟩ := hboth
  by_contra hnot
  exact hne (String.le_antisymm (of_decide_eq_true hle) (String.not_lt.mp hnot))

/-! ## §2. Names below a place. -/

/-- The names that lead from a place to the files at and below it, down to a depth. -/
def namesBelow (fs : FileSystem) : Nat → Location → Node → List (List String)
  | 0, _, _ => []
  | depth + 1, place, .directory =>
    (fs.children place).flatMap fun child =>
      (namesBelow fs depth (place ++ [child.1]) child.2).map (child.1 :: ·)
  | _ + 1, _, _ => [[]]

/-- Nothing lies below a file of a tree. -/
theorem eq_nil_of_below_file (h : fs.IsTree) {place : Location} {c : Content}
    (hfile : fs.node? place = some (.file c)) (names : List String) :
    ∀ node, fs.node? (place ++ names) = some node → names = [] := by
  induction names using List.reverseRecOn with
  | nil => intro _ _; rfl
  | append_singleton names name ih =>
      intro node hnode
      rw [← List.append_assoc] at hnode
      -- What the last name lies in is a directory, so it is not the file itself.
      have hparent := h.parent _ _ _ hnode
      obtain rfl := ih _ hparent
      rw [List.append_nil, hfile] at hparent
      cases hparent

/-- What is below a directory is below one of its members. -/
theorem exists_node_of_below (h : fs.IsTree) (place : Location) (name : String)
    (names : List String) :
    ∀ node, fs.node? (place ++ name :: names) = some node →
      ∃ child, fs.node? (place ++ [name]) = some child := by
  induction names using List.reverseRecOn with
  | nil => intro node hnode; exact ⟨node, hnode⟩
  | append_singleton names last ih =>
      intro node hnode
      rw [← List.cons_append, ← List.append_assoc] at hnode
      exact ih _ (h.parent _ _ _ hnode)

/-- **The names below a place lead to the files there**, if the search does not end at its
depth. -/
theorem mem_namesBelow_iff (h : fs.IsTree) (depth : Nat) :
    ∀ (place : Location) (node : Node), fs.node? place = some node →
      fs.countBelow place < depth → ∀ names,
        names ∈ fs.namesBelow depth place node ↔
          ∃ c, fs.node? (place ++ names) = some (.file c) := by
  -- Level by level; a member has fewer nodes below it than the directory.
  induction depth with
  | zero => intro place node _ hless; exact absurd hless (Nat.not_lt_zero _)
  | succ depth ih =>
      intro place node hnode hless names
      cases node with
      | link target => exact absurd hnode (h.noLinks.linkFree place target)
      | file content =>
          rw [namesBelow, List.mem_singleton]
          constructor
          · rintro rfl
            exact ⟨content, by rw [List.append_nil]; exact hnode⟩
          · rintro ⟨c, hc⟩
            exact eq_nil_of_below_file h hnode names _ hc
          · intro heq
            cases heq
      | directory =>
          have hmember : ∀ name child, fs.node? (place ++ [name]) = some child → ∀ rest,
              rest ∈ fs.namesBelow depth (place ++ [name]) child ↔
                ∃ c, fs.node? (place ++ name :: rest) = some (.file c) := by
            intro name child hchild rest
            have hfewer := countBelow_lt ((node?_concat_iff h).mp hchild)
            rw [ih _ child hchild (by omega), List.append_assoc, List.singleton_append]
          rw [namesBelow, List.mem_flatMap]
          constructor
          · rintro ⟨⟨name, child⟩, hchild, hnames⟩
            obtain ⟨rest, hrest, rfl⟩ := List.mem_map.mp hnames
            exact (hmember name child ((mem_children_iff h).mp hchild) rest).mp hrest
          · rintro ⟨c, hc⟩
            cases names with
            | nil =>
                rw [List.append_nil, hnode] at hc
                cases hc
            | cons name rest =>
                obtain ⟨child, hchild⟩ := exists_node_of_below h place name rest _ hc
                refine ⟨(name, child), (mem_children_iff h).mpr hchild, ?_⟩
                exact List.mem_map_of_mem ((hmember name child hchild rest).mpr ⟨c, hc⟩)

/-- **The names below a place ascend strictly.** -/
theorem pairwise_namesBelow (h : fs.IsTree) (depth : Nat) :
    ∀ (place : Location) (node : Node), (fs.namesBelow depth place node).Pairwise (· < ·) := by
  induction depth with
  | zero => intro place node; exact List.Pairwise.nil
  | succ depth ih =>
      intro place node
      cases node with
      | file content => exact List.pairwise_singleton _ _
      | link target => exact List.pairwise_singleton _ _
      | directory =>
          rw [namesBelow, List.pairwise_flatMap]
          constructor
          · -- Below one member the first names are the same.
            intro child _
            rw [List.pairwise_map]
            refine (ih (place ++ [child.1]) child.2).imp fun hless => ?_
            exact List.cons_lt_cons_iff.mpr (.inr ⟨rfl, hless⟩)
          · -- Below different members they decide.
            refine (pairwise_children h place).imp fun hless names hnames others hothers => ?_
            obtain ⟨rest, -, rfl⟩ := List.mem_map.mp hnames
            obtain ⟨more, -, rfl⟩ := List.mem_map.mp hothers
            exact List.cons_lt_cons_iff.mpr (.inl hless)

/-- The names that lead from a directory to the files below it. -/
def namesUnder (fs : FileSystem) (place : Location) : List (List String) :=
  fs.namesBelow (depthLimit fs) place .directory

/-- **They lead to all files below the directory**, as no search comes to the depth at which it
ends. -/
theorem mem_namesUnder_iff (h : fs.IsTree) {place : Location}
    (hplace : fs.node? place = some .directory) {names : List String} :
    names ∈ fs.namesUnder place ↔ ∃ c, fs.node? (place ++ names) = some (.file c) :=
  mem_namesBelow_iff h _ place .directory hplace (countBelow_lt_depthLimit fs place) names

/-- Each of the names leads down. -/
theorem plain_of_mem_namesUnder (h : fs.IsTree) {place : Location}
    (hplace : fs.node? place = some .directory) {names : List String}
    (hnames : names ∈ fs.namesUnder place) : ∀ name ∈ names, Path.Plain name.toList := by
  intro name hname
  obtain ⟨c, hc⟩ := (mem_namesUnder_iff h hplace).mp hnames
  exact plain_of_node h hc name (List.mem_append_right place hname)

end Files.FileSystem

/-! ## §3. Paths below a path. -/

namespace Path

/-- The path that names lead to from a path. -/
def descend (p : Path) (names : List String) : Path :=
  names.foldl (fun q name => q.join name.toList) p

theorem descend_concat (p : Path) (names : List String) (name : String) :
    p.descend (names ++ [name]) = (p.descend names).join name.toList := by
  unfold descend
  rw [List.foldl_append]
  rfl

/-- The bytes of the names of a path that count. -/
def bytes (p : Path) : List (List UInt8) := p.components.2.map utf8

/-- Does a path come before another one that starts where it does, name by name in the order of
their bytes? -/
def Before (p q : Path) : Prop := p.components.1 = q.components.1 ∧ p.bytes < q.bytes

/-- **Going down adds names at the end.** -/
theorem components_descend (names : List String) :
    ∀ p : Path, (∀ name ∈ names, Plain name.toList) →
      (p.descend names).components =
        (p.components.1, p.components.2 ++ names.map String.toList) := by
  induction names with
  | nil => intro p _; simp [descend]
  | cons name names ih =>
      intro p h
      have hjoin := components_join p (h name List.mem_cons_self)
      show ((p.join name.toList).descend names).components = _
      rw [ih _ fun n hn => h n (List.mem_cons_of_mem name hn), hjoin]
      simp

/-- Names in order have bytes in order. -/
theorem map_utf8_lt (names : List String) :
    ∀ {others : List String}, names < others →
      (names.map fun n => utf8 n.toList) < others.map fun n => utf8 n.toList := by
  induction names with
  | nil =>
      intro others h
      cases others with
      | nil => exact absurd h (List.not_lt_nil [])
      | cons other others => exact List.nil_lt_cons _ _
  | cons name names ih =>
      intro others h
      cases others with
      | nil => exact absurd h (List.not_lt_nil _)
      | cons other others =>
          rw [List.map_cons, List.map_cons, List.cons_lt_cons_iff]
          rcases List.cons_lt_cons_iff.mp h with hfirst | ⟨rfl, hrest⟩
          · exact .inl (utf8_lt _ (String.lt_iff.mp hfirst))
          · exact .inr ⟨rfl, ih hrest⟩

/-- **Names in order lead to paths in order.** -/
theorem before_descend (p : Path) {names others : List String}
    (hnames : ∀ name ∈ names, Plain name.toList) (hothers : ∀ name ∈ others, Plain name.toList)
    (h : names < others) : (p.descend names).Before (p.descend others) := by
  unfold Before bytes
  rw [components_descend names p hnames, components_descend others p hothers]
  refine ⟨rfl, ?_⟩
  rw [List.map_append, List.map_append, List.map_map, List.map_map]
  exact List.append_left_lt (map_utf8_lt names h)

end Path

/-- **The search finds the paths to the names below a place.** -/
theorem filesBelow_eq {fs : FileSystem} (hfree : fs.NoLinks) (depth : Nat) :
    ∀ (opened : List Opened) (p : Path) (place : Location) (node : Node),
      (∀ target, node ≠ .link target) →
      filesBelow fs depth opened p place node =
        .ok ((fs.namesBelow depth place node).map p.descend) := by
  induction depth with
  | zero => intro opened p place node _; rw [filesBelow]; rfl
  | succ depth ih =>
      intro opened p place node hnode
      cases node with
      | link target => exact absurd rfl (hnode target)
      | file content => rw [filesBelow]; rfl
      | directory =>
          rw [filesBelow, filesBelow.searchIn, FileSystem.namesBelow, List.map_flatMap]
          refine collect_ok fun child hchild => ?_
          obtain ⟨name, node⟩ := child
          have hmember := hfree _ (FileSystem.mem_nodes_of_mem_children hchild)
          rw [ih _ _ _ _ hmember, List.map_map]
          -- To go down by a name and further names is to go down by all of them.
          rfl

/-- Without links all files below a directory are found. -/
theorem allFiles_eq {fs : FileSystem} (hfree : fs.NoLinks) {root : Path} {place : Location}
    (hfind : fs.find true root = .ok (place, .directory)) :
    allFiles fs root = .ok ((fs.namesUnder place).map root.descend) := by
  have hsame := FileSystem.find_eq_of_linkFree hfree.linkFree false root
  unfold allFiles
  rw [hsame, hfind]
  exact filesBelow_eq hfree _ _ _ _ _ fun target => Node.noConfusion

/-! ## §4. Sources. -/

/-- A name that carries an extension: it stands behind the last dot of the name, and that dot is
not the first character. -/
def Carries (extension name : String) : Prop :=
  '.' ∉ extension.toList ∧
    ∃ front, front ≠ [] ∧ name.toList = front ++ '.' :: extension.toList

/-- A path is one of a source if its last name carries the extension. -/
theorem isSourcePath_join_iff {extension name : String} (h : Path.Plain name.toList) (p : Path) :
    isSourcePath extension (p.join name.toList) = true ↔ Carries extension name := by
  unfold isSourcePath Path.extension? Carries
  rw [Path.fileName?_join p h, Option.bind_some, beq_iff_eq]
  exact Path.cutName_snd_eq_some_iff

/-- The list of the sources below a directory. -/
structure IsListing (fs : FileSystem) (extension : String) (root : Path) (place : Location)
    (found : List Path) : Prop where
  /-- It has the paths of the files at any depth whose names carry the extension, and no others. -/
  mem_iff : ∀ p, p ∈ found ↔ ∃ names name content,
    fs.node? (place ++ names ++ [name]) = some (.file content) ∧ Carries extension name ∧
      p = root.descend (names ++ [name])
  /-- They ascend strictly. -/
  sorted : found.Pairwise Path.Before

/-- **A search of a directory gives the list of the sources below it.** -/
theorem isListing_sourcesFound {fs : FileSystem} (h : fs.IsTree) (extension : String) {root : Path}
    {place : Location} (hfind : fs.find true root = .ok (place, .directory)) :
    (discoverSources fs extension root).result = .ok (sourcesFound fs extension root) ∧
      IsListing fs extension root place (sourcesFound fs extension root) := by
  have hdir := FileSystem.node?_of_find h hfind
  have hall := allFiles_eq h.noLinks hfind
  have hplain : ∀ {names}, names ∈ fs.namesUnder place → ∀ name ∈ names, Path.Plain name.toList :=
    FileSystem.plain_of_mem_namesUnder h hdir
  have hfound : sourcesFound fs extension root =
      ((fs.namesUnder place).map root.descend).filter (isSourcePath extension) := by
    unfold sourcesFound FileSystem.isDirectory
    rw [hfind, if_pos rfl, hall]
  refine ⟨?_, fun p => ?_, ?_⟩
  · unfold discoverSources
    rw [hall, hfound]
  · rw [hfound, List.mem_filter, List.mem_map]
    constructor
    · rintro ⟨⟨names, hnames, rfl⟩, hsource⟩
      obtain ⟨c, hc⟩ := (FileSystem.mem_namesUnder_iff h hdir).mp hnames
      rcases List.eq_nil_or_concat' names with rfl | ⟨front, name, rfl⟩
      · -- The directory itself is no file.
        rw [List.append_nil, hdir] at hc
        cases hc
      · have hname := hplain hnames name (List.mem_append_right front List.mem_cons_self)
        rw [Path.descend_concat, isSourcePath_join_iff hname] at hsource
        rw [← List.append_assoc] at hc
        exact ⟨front, name, c, hc, hsource, rfl⟩
    · rintro ⟨front, name, c, hc, hcarries, rfl⟩
      rw [List.append_assoc] at hc
      have hnames := (FileSystem.mem_namesUnder_iff h hdir).mpr ⟨c, hc⟩
      have hname := hplain hnames name (List.mem_append_right front List.mem_cons_self)
      refine ⟨⟨_, hnames, rfl⟩, ?_⟩
      rw [Path.descend_concat, isSourcePath_join_iff hname]
      exact hcarries
  · rw [hfound]
    refine List.Pairwise.filter _ (List.pairwise_map.mpr ?_)
    refine (FileSystem.pairwise_namesBelow h _ place .directory).imp_of_mem ?_
    intro names others hnames hothers hlt
    exact Path.before_descend root (hplain hnames) (hplain hothers) hlt

/-- **What arguments stand for.**  In a tree of files and directories the search of a directory
gives the list of the sources below it, a path that leads to anything else stands for itself, and
any arguments that lead somewhere stand for these lists one after the other. -/
theorem expandSources_listing {fs : FileSystem} (htree : fs.IsTree) (extension : String) :
    (∀ (root : Path) (place : Location), fs.find true root = .ok (place, .directory) →
      (discoverSources fs extension root).result = .ok (sourcesFound fs extension root) ∧
        IsListing fs extension root place (sourcesFound fs extension root)) ∧
    (∀ arg, fs.isDirectory arg = false → sourcesFound fs extension arg = [arg]) ∧
    (∀ args : List Path, (∀ arg ∈ args, fs.hasNode arg = true) →
      (expandSources fs extension args).result =
        .ok (args.flatMap (sourcesFound fs extension))) := by
  refine ⟨fun root place hfind => isListing_sourcesFound htree extension hfind, ?_, ?_⟩
  · intro arg hno
    unfold sourcesFound
    rw [hno, if_neg Bool.false_ne_true]
  · intro args hthere
    refine expandSources_ok fs extension args fun arg harg hbad => ?_
    rcases hbad with hmissing | ⟨hdirectory, cause, hfault⟩
    · rw [hthere arg harg] at hmissing
      cases hmissing
    · -- A directory of a tree can be searched.
      obtain ⟨place, hfind⟩ := FileSystem.find_of_isDirectory htree.noLinks.linkFree hdirectory true
      have hsearch := (isListing_sourcesFound htree extension hfind).1
      unfold discoverSources at hsearch
      rw [hfault] at hsearch
      cases hsearch

/-- A directory with a file and a directory whose names begin alike. -/
def drawer : FileSystem :=
  ⟨[(["work"], .directory), (["work", "a.crankgen"], .file (.text "")),
    (["work", "a"], .directory), (["work", ".crankgen"], .file (.text "")),
    (["work", "a", "b.crankgen"], .file (.text ""))], ["work"]⟩

theorem isTree_drawer : drawer.IsTree := by
  have hparent : ∀ e ∈ drawer.nodes, drawer.node? e.1.dropLast = some .directory := by decide
  refine ⟨by decide, by decide, fun place name node hnode => ?_, ?_, rfl⟩
  · unfold FileSystem.node? at hnode
    rw [if_neg (by simp)] at hnode
    have hdirectory := hparent _ (Assoc.mem_of_get? hnode)
    rw [List.dropLast_concat] at hdirectory
    exact hdirectory
  · simp [FileSystem.NoLinks, drawer]

/-- The file is its own argument and one of the sources below the directory. -/
theorem expandSources_listing_drawer :
    drawer.IsTree ∧ drawer.find true ⟨"."⟩ = .ok (["work"], .directory) ∧
      (∀ arg ∈ [⟨"a.crankgen"⟩, ⟨"."⟩], drawer.hasNode arg = true) ∧
      ∃ found, (expandSources drawer "crankgen" [⟨"a.crankgen"⟩, ⟨"."⟩]).result =
          .ok (⟨"a.crankgen"⟩ :: found) ∧
        IsListing drawer "crankgen" ⟨"."⟩ ["work"] found ∧ ⟨"./a/b.crankgen"⟩ ∈ found := by
  have hroot : drawer.find true ⟨"."⟩ = .ok (["work"], .directory) :=
    FileSystem.find_dot drawer true
  have hname : FileSystem.IsFileName "a.crankgen" :=
    ⟨⟨by decide, by decide⟩, by decide, by decide⟩
  have hfile : drawer.find true ⟨"a.crankgen"⟩ =
      .ok (["work", "a.crankgen"], .file (.text "")) := FileSystem.find_fileName true hname rfl
  have hthere : ∀ arg ∈ [⟨"a.crankgen"⟩, ⟨"."⟩], drawer.hasNode arg = true := by
    simp [FileSystem.hasNode, hroot, hfile]
  obtain ⟨hlists, hself, hall⟩ := expandSources_listing isTree_drawer "crankgen"
  have hlist := (hlists _ _ hroot).2
  have hone := hself ⟨"a.crankgen"⟩ (by simp [FileSystem.isDirectory, hfile])
  refine ⟨isTree_drawer, hroot, hthere, sourcesFound drawer "crankgen" ⟨"."⟩, ?_, hlist, ?_⟩
  · rw [hall _ hthere, List.flatMap_cons, hone]
    simp
  · refine (hlist.mem_iff _).mpr ⟨["a"], "b.crankgen", .text "", rfl, ?_, by decide⟩
    exact ⟨by decide, ['b'], by decide, by decide⟩

end Fanout
