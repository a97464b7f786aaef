/-
  Fanout.Proofs.Component
  ───────────────────────
  **Paths name by name.**

  Two spellings of one path differ in names that lead nowhere.  What a path
  starts from and the names that count are the same in both, and that is how
  paths are compared:

    • `components_eq` — the components are read off the parts between
      slashes,
    • `components_join`, `components_ofParts` — how they are joined,
    • `components_parent` — a path is its folder and its last name,
    • `pathFor_apart` — sources with one extension never write to one path,
      and none writes to its own.
-/
import Fanout.Proofs.Settings

namespace Fanout

open Fanout.Text

namespace Path

/-! ## §1. Components. -/

/-- Does a name count? -/
def counts (name : List Char) : Bool := !isInert name

/-- What a path starts from, and the names that count. -/
def components (p : Path) : Start × List (List Char) := (p.parts.1, p.parts.2.filter counts)

/-- What parts between slashes start from. -/
def Start.ofNames : List (List Char) → Start
  | [] => .current
  | first :: rest =>
    if first = [] ∧ rest ≠ [] then .root
    else if first = ['.'] then .dot
    else .current

/-- Parts start from where they do without those at their end. -/
theorem Start.ofNames_append {names last other : List (List Char)} (hnames : names ≠ [])
    (hlast : last ≠ []) (hother : other ≠ []) :
    Start.ofNames (names ++ last) = Start.ofNames (names ++ other) := by
  cases names with
  | nil => exact absurd rfl hnames
  | cons first rest =>
      have hl : rest ++ last ≠ [] := List.append_ne_nil_of_right_ne_nil rest hlast
      have ho : rest ++ other ≠ [] := List.append_ne_nil_of_right_ne_nil rest hother
      simp [ofNames, hl, ho]

/-- Nothing is before a part, unless it is empty. -/
theorem Start.ofNames_concat {names : List (List Char)} (hnames : names ≠ [])
    (hempty : names ≠ [[]]) (last : List Char) :
    Start.ofNames (names ++ [last]) = Start.ofNames names := by
  cases names with
  | nil => exact absurd rfl hnames
  | cons first rest =>
      cases rest with
      | nil =>
          have hfirst : first ≠ [] := by
            rintro rfl
            exact hempty rfl
          simp [ofNames, hfirst]
      | cons second rest => simp [ofNames]

/-- **The components of a path are read off its parts between slashes.** -/
theorem components_eq (p : Path) :
    p.components = (Start.ofNames (splitAt '/' p.text.toList),
      (splitAt '/' p.text.toList).filter counts) := by
  unfold components parts
  cases hsplit : splitAt '/' p.text.toList with
  | nil => exact absurd hsplit (splitAt_ne_nil '/' _)
  | cons first rest =>
      dsimp only
      by_cases habsolute : p.isAbsolute = true
      · -- The part before the slash of the root is empty and does not count.
        obtain ⟨names, hnames, hne⟩ := exists_of_isAbsolute habsolute
        rw [hsplit, List.cons.injEq] at hnames
        obtain ⟨rfl, rfl⟩ := hnames
        rw [if_pos habsolute, List.filter_cons_of_neg (by decide)]
        simp [Start.ofNames, hne]
      · have hroot : ¬ (first = [] ∧ rest ≠ []) := by
          rintro ⟨rfl, hne⟩
          exact habsolute (isAbsolute_of_splitAt hsplit hne)
        rw [if_neg habsolute, Start.ofNames, if_neg hroot]
        by_cases hdot : first = ['.']
        · rw [if_pos hdot, if_pos hdot, hdot, List.filter_cons_of_neg (by decide)]
        · rw [if_neg hdot, if_neg hdot]

/-- A name that leads down counts. -/
theorem Plain.counts {name : List Char} (h : Plain name) : counts name = true := by
  simp [Path.counts, isInert, h.ne_nil, h.ne_dot]

/-! ## §2. Joining. -/

/-- Only the empty text has an empty part and no other. -/
theorem splitAt_ne_singleton {cs : List Char} (h : cs ≠ []) : splitAt '/' cs ≠ [[]] := by
  intro hone
  rcases cases_splitAt '/' cs with ⟨-, hall⟩ | ⟨before, last, -, -, hcut⟩
  · rw [hall] at hone
    exact h (List.singleton_inj.mp hone)
  · -- Around a slash there are two parts.
    have hlength := congrArg List.length (hcut.symm.trans hone)
    rw [List.length_append, length_splitAt] at hlength
    simp at hlength

/-- **A plain name that is joined to a path is one name more.** -/
theorem components_join (p : Path) {name : List Char} (h : Plain name) :
    (p.join name).components = (p.components.1, p.components.2 ++ [name]) := by
  have hfilter : [name].filter counts = [name] := by simp [h.counts]
  have hempty : ([[]] : List (List Char)).filter counts = [] := rfl
  obtain ⟨names, hparts, hsplit | ⟨hsplit, hne⟩⟩ := splitAt_join p h.noSlash
  · -- The name comes instead of an empty part, which does not count.
    have hstart : Start.ofNames (names ++ [name]) = Start.ofNames (names ++ [[]]) := by
      by_cases hnil : names = []
      · rw [hnil]
        simp [Start.ofNames, h.ne_dot]
      · exact Start.ofNames_append hnil (List.cons_ne_nil name []) (List.cons_ne_nil [] [])
    rw [components_eq, components_eq p, hparts, hsplit, hstart, List.filter_append,
      List.filter_append, hfilter, hempty, List.append_nil]
  · have hnil : names ≠ [] := by
      rw [← hsplit]
      exact splitAt_ne_nil '/' _
    have hone : names ≠ [[]] := by
      rw [← hsplit]
      exact splitAt_ne_singleton hne
    rw [components_eq, components_eq p, hparts, hsplit, Start.ofNames_concat hnil hone,
      List.filter_append, hfilter]

/-- The components of a path that is put together are its start and the names that count. -/
theorem components_ofParts (start : Start) {names : List (List Char)} (h : ∀ n ∈ names, '/' ∉ n)
    (hstart : start = .current → ∀ n ∈ names.head?, counts n = true) :
    (ofParts start names).components = (start, names.filter counts) := by
  have hcut : splitAt '/' (slashed names) = if names = [] then [[]] else names := by
    cases names with
    | nil => rfl
    | cons name names =>
        rw [splitAt_slashed name names h]
        rfl
  rw [components_eq]
  cases start with
  | root =>
      show (Start.ofNames (splitAt '/' (String.ofList ('/' :: slashed names)).toList),
        (splitAt '/' (String.ofList ('/' :: slashed names)).toList).filter counts) = _
      rw [String.toList_ofList, splitAt, if_pos rfl, hcut]
      cases names with
      | nil => rfl
      | cons name names => simp [Start.ofNames, counts, isInert]
  | dot =>
      cases names with
      | nil => rfl
      | cons name names =>
          show (Start.ofNames (splitAt '/'
              (String.ofList (['.'] ++ '/' :: slashed (name :: names))).toList),
            (splitAt '/'
              (String.ofList (['.'] ++ '/' :: slashed (name :: names))).toList).filter counts) = _
          rw [String.toList_ofList, splitAt_append_cons, hcut]
          rfl
  | current =>
      show (Start.ofNames (splitAt '/' (String.ofList (slashed names)).toList),
        (splitAt '/' (String.ofList (slashed names)).toList).filter counts) = _
      rw [String.toList_ofList, hcut]
      cases names with
      | nil => rfl
      | cons name names =>
          have hcounts : isInert name = false := by simpa [counts] using hstart rfl name rfl
          have hfirst : name ≠ [] ∧ name ≠ ['.'] := by simpa [isInert] using hcounts
          rw [if_neg (List.cons_ne_nil name names)]
          simp [Start.ofNames, hfirst]

/-! ## §3. Folder and last name. -/

/-- The last name of a path counts, and the names behind it do not. -/
theorem exists_names_of_fileName? {p : Path} {name : List Char} (h : p.fileName? = some name) :
    ∃ before inert, p.parts.2 = before ++ name :: inert ∧ counts name = true ∧
      (∀ n ∈ inert, isInert n = true) ∧ p.namesBackwards = name :: before.reverse := by
  obtain ⟨rest, hback⟩ := exists_namesBackwards h
  obtain ⟨inert, hparts, hinert⟩ := exists_inert p.parts.2
  have hname : isInert name = false := by
    have hstop := List.head?_dropWhile_not isInert p.parts.2.reverse
    unfold namesBackwards at hback
    rw [hback] at hstop
    exact hstop
  refine ⟨rest.reverse, inert, ?_, ?_, hinert, by rw [List.reverse_reverse]; exact hback⟩
  · unfold namesBackwards at hback
    rw [hparts, hback]
    simp
  · rw [counts, hname]
    rfl

/-- The first name of a path that starts from the current directory without saying so counts,
unless the path is empty. -/
theorem counts_head {p : Path} (h : p.parts.1 = .current) (hne : p.parts.2 ≠ [[]]) :
    ∀ n ∈ p.parts.2.head?, counts n = true := by
  intro n hn
  unfold parts at h hne hn
  cases hsplit : splitAt '/' p.text.toList with
  | nil => exact absurd hsplit (splitAt_ne_nil '/' _)
  | cons first rest =>
      rw [hsplit] at h hne hn
      dsimp only at h hne hn
      split at h
      · cases h
      · rename_i hrelative
        split at h
        · cases h
        · rename_i hdot
          rw [if_neg hrelative, if_neg hdot] at hne hn
          obtain rfl : first = n := Option.some.inj hn
          have hfirst : first ≠ [] := by
            rintro rfl
            -- An empty first part has a slash behind it, and the path is from the root.
            have hrest : rest ≠ [] := fun hnil => hne (by rw [hnil])
            exact hrelative (isAbsolute_of_splitAt hsplit hrest)
          simp [counts, isInert, hfirst, hdot]

/-- **A path is its folder and its last name.** -/
theorem components_parent {p : Path} {name : List Char} (h : p.fileName? = some name) :
    p.components = (p.parent.components.1, p.parent.components.2 ++ [name]) := by
  obtain ⟨before, inert, hparts, hname, hinert, hback⟩ := exists_names_of_fileName? h
  obtain ⟨more, hbefore, hmore⟩ := exists_inert before
  have hnone : ∀ names : List (List Char), (∀ n ∈ names, isInert n = true) →
      names.filter counts = [] := by
    intro names hall
    exact List.filter_eq_nil_iff.mpr fun n hn => by simp [counts, hall n hn]
  have hparent : p.parent = ofParts p.parts.1 (before.reverse.dropWhile isInert).reverse := by
    unfold parent
    rw [hback]
    rfl
  generalize (before.reverse.dropWhile isInert).reverse = kept at hbefore hparent
  have hslash : ∀ n ∈ kept, '/' ∉ n := by
    intro n hn
    refine slash_not_mem_parts (p := p) ?_
    rw [hparts, hbefore]
    exact List.mem_append_left _ (List.mem_append_left more hn)
  have hstart : p.parts.1 = .current → ∀ n ∈ kept.head?, counts n = true := by
    intro hcurrent n hn
    -- The path is not empty, as its last name counts.
    have hne : p.parts.2 ≠ [[]] := by
      intro hone
      have hmem : name ∈ p.parts.2 := by
        rw [hparts]
        exact List.mem_append_right before List.mem_cons_self
      rw [hone, List.mem_singleton] at hmem
      rw [hmem] at hname
      cases hname
    refine counts_head hcurrent hne n ?_
    rw [hparts, hbefore, List.append_assoc, List.head?_append, Option.mem_def.mp hn]
    rfl
  rw [hparent, components_ofParts _ hslash hstart]
  unfold components
  rw [hparts, hbefore]
  simp [hname, hnone more hmore, hnone inert hinert]

/-- The last name of a path is its stem, or the stem, a dot and the extension. -/
theorem name_of_cut {p : Path} {name : List Char} (h : p.fileName? = some name) :
    (p.extension? = none ∧ name = p.stem) ∨
      ∃ behind, p.extension? = some behind ∧ name = p.stem ++ '.' :: behind := by
  unfold extension? stem
  rw [h]
  dsimp only [Option.bind_some]
  unfold cutName
  split
  · rename_i c before behind hcut
    exact .inr ⟨behind, rfl, (splitLast?_eq_some_iff.mp hcut).1⟩
  · exact .inl ⟨rfl, rfl⟩

/-- Only a path with a last name has an extension. -/
theorem exists_name_of_extension? {p : Path} {behind : List Char}
    (h : p.extension? = some behind) :
    p.fileName? = some (p.stem ++ '.' :: behind) := by
  have hname : ∃ name, p.fileName? = some name := by
    unfold extension? at h
    cases hfile : p.fileName? with
    | none =>
        rw [hfile] at h
        cases h
    | some name => exact ⟨name, rfl⟩
  obtain ⟨name, hname⟩ := hname
  rcases name_of_cut hname with ⟨hnone, -⟩ | ⟨found, hfound, hcut⟩
  · rw [h] at hnone
    cases hnone
  · obtain rfl : behind = found := Option.some.inj (h.symm.trans hfound)
    rw [hname, hcut]

end Path

/-! ## §4. Generated files. -/

namespace OutputSettings

variable {o : OutputSettings}

/-- The path of a generated file is the folder of its source and its name. -/
theorem components_pathFor (hext : '/' ∉ o.extension.toList) {source : Path} {name : List Char}
    (h : source.fileName? = some name) (index : Nat) :
    (o.pathFor source index).components =
      (source.parent.components.1, source.parent.components.2 ++ [o.nameFor source index]) := by
  have hfolder : source.folder = source.parent := by
    unfold Path.folder
    rw [h]
  rw [pathFor_eq_join, hfolder, Path.components_join _ (plain_nameFor hext source index)]

/-- No generated file has the name of its source. -/
theorem nameFor_ne_name (o : OutputSettings) {source : Path} {name : List Char}
    (h : source.fileName? = some name) (index : Nat) : o.nameFor source index ≠ name := by
  intro heq
  unfold nameFor at heq
  rw [List.append_assoc, List.append_assoc] at heq
  -- Behind the stem stands an underscore, where the source has a dot or ends.
  rcases Path.name_of_cut h with ⟨-, hname⟩ | ⟨behind, -, hname⟩
  · rw [hname] at heq
    simp at heq
  · rw [hname, List.append_cancel_left_eq] at heq
    exact absurd (List.cons.inj heq).1 (by decide)

/-- **Sources with one extension never write to one path.**  If two files generated from such
sources have one path, name by name, the sources lie in one folder under one name and the files
belong to one combination.  And every generated file lies in the folder of its source under
another name. -/
theorem pathFor_apart (o : OutputSettings) (hext : '/' ∉ o.extension.toList) :
    (∀ (first second : Path) (extension : List Char) (i j : Nat),
      first.extension? = some extension → second.extension? = some extension →
      (o.pathFor first i).components = (o.pathFor second j).components →
        first.parent.components = second.parent.components ∧
          first.fileName? = second.fileName? ∧ i = j) ∧
    (∀ (source : Path) (name : List Char) (i : Nat), source.fileName? = some name →
      (o.pathFor source i).parent.components = source.parent.components ∧
        (o.pathFor source i).components ≠ source.components) := by
  constructor
  · intro first second extension i j hfirst hsecond heq
    have hone := Path.exists_name_of_extension? hfirst
    have htwo := Path.exists_name_of_extension? hsecond
    rw [components_pathFor hext hone, components_pathFor hext htwo, Prod.mk.injEq] at heq
    obtain ⟨hstart, hnames⟩ := heq
    obtain ⟨hfolder, hlast⟩ := List.append_inj' hnames rfl
    obtain ⟨hstem, hindex⟩ := nameFor_injective o (List.singleton_inj.mp hlast)
    refine ⟨Prod.ext hstart hfolder, ?_, hindex⟩
    -- The stem and the extension make up the name.
    rw [hone, htwo, hstem]
  · intro source name i hname
    have hpath := components_pathFor hext hname i
    constructor
    · have hparent := Path.components_parent (fileName?_pathFor hext source i)
      rw [hpath, Prod.mk.injEq] at hparent
      obtain ⟨hstart, hnames⟩ := hparent
      exact Prod.ext hstart.symm (List.append_inj' hnames rfl).1.symm
    · rw [hpath, Path.components_parent hname, ne_eq, Prod.mk.injEq]
      rintro ⟨-, hnames⟩
      exact nameFor_ne_name o hname i (List.singleton_inj.mp (List.append_inj' hnames rfl).2)

/-- Two spellings of one source, whose stem looks like the name of a generated file. -/
theorem pathFor_apart_spelled :
    '/' ∉ standard.extension.toList ∧
      Path.extension? ⟨"x/./a_1_gen.b.crankgen"⟩ = some "crankgen".toList ∧
      Path.extension? ⟨"x//a_1_gen.b.crankgen/."⟩ = some "crankgen".toList ∧
      (standard.pathFor ⟨"x/./a_1_gen.b.crankgen"⟩ 12).components =
        (standard.pathFor ⟨"x//a_1_gen.b.crankgen/."⟩ 12).components ∧
      (Path.parent ⟨"x/./a_1_gen.b.crankgen"⟩).components =
        (Path.parent ⟨"x//a_1_gen.b.crankgen/."⟩).components ∧
      (standard.pathFor ⟨"x/./a_1_gen.b.crankgen"⟩ 12).components ≠
        Path.components ⟨"x/./a_1_gen.b.crankgen"⟩ := by
  have hext : '/' ∉ standard.extension.toList := by decide
  have hfirst : Path.extension? ⟨"x/./a_1_gen.b.crankgen"⟩ = some "crankgen".toList := by decide
  have hsecond : Path.extension? ⟨"x//a_1_gen.b.crankgen/."⟩ = some "crankgen".toList := by
    decide
  have hmeet : (standard.pathFor ⟨"x/./a_1_gen.b.crankgen"⟩ 12).components =
      (standard.pathFor ⟨"x//a_1_gen.b.crankgen/."⟩ 12).components := by decide
  obtain ⟨hone, hown⟩ := pathFor_apart standard hext
  have hname : Path.fileName? ⟨"x/./a_1_gen.b.crankgen"⟩ = some "a_1_gen.b.crankgen".toList := by
    decide
  exact ⟨hext, hfirst, hsecond, hmeet, (hone _ _ _ 12 12 hfirst hsecond hmeet).1,
    (hown _ _ 12 hname).2⟩

end OutputSettings

end Fanout
