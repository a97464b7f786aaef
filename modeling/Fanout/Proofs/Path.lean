/-
  Fanout.Proofs.Path
  ──────────────────
  **The way to a neighbour.**

  A file beside another one is named without a slash, so that the path to
  it is the path to the common directory and one step more:

    • `steps_join` — a plain name adds one step to a path and changes no
      other,
    • `exists_splitAt_of_steps` — a path whose last step leads down ends with
      the name of the step,
    • `withFileName_eq_join` — a neighbour lies in a folder that does not
      depend on its name,
    • `exists_lead_parent`, `isAbsolute_parent` — the folder of a path that
      leads down is where the path leads without its last step,
    • `cutName_snd_eq_some_iff` — what stands behind the last dot of a name,
    • `slash_not_mem_stem` — no stem has a slash.
-/
import Fanout.Path
import Fanout.Proofs.Text

namespace Fanout

open Fanout.Text

namespace Path

/-! ## §1. Steps. -/

/-- A name that is one step downwards. -/
structure Plain (name : List Char) : Prop where
  /-- It is cut nowhere. -/
  noSlash : '/' ∉ name
  /-- It leads down. -/
  step : stepOf? name = some (.named (String.ofList name))

theorem Plain.ne_nil {name : List Char} (h : Plain name) : name ≠ [] := by
  rintro rfl
  exact absurd h.step (by decide)

theorem Plain.ne_dot {name : List Char} (h : Plain name) : name ≠ ['.'] := by
  rintro rfl
  exact absurd h.step (by decide)

theorem Plain.ne_dots {name : List Char} (h : Plain name) : name ≠ ['.', '.'] := by
  rintro rfl
  exact absurd h.step (by decide)

/-- A name that is neither empty nor made of dots leads down. -/
theorem plain_of_mem {name : List Char} {c : Char} (hslash : '/' ∉ name) (hc : c ∈ name)
    (hdot : c ≠ '.') : Plain name := by
  refine ⟨hslash, ?_⟩
  unfold stepOf?
  rw [if_neg, if_neg, if_neg]
  · rintro rfl
    simp [hdot] at hc
  · rintro rfl
    simp [hdot] at hc
  · cases name with
    | nil => cases hc
    | cons d rest => simp

/-- The steps of a path without the one that a slash at its end adds. -/
def lead (p : Path) : List Step := (splitAt '/' p.text.toList).filterMap stepOf?

/-- A path whose last part is not empty does not end with a slash. -/
theorem endsWithSlash_eq_false {p : Path} {names : List (List Char)} {last : List Char}
    (h : splitAt '/' p.text.toList = names ++ [last]) (hlast : last ≠ []) :
    p.endsWithSlash = false := by
  unfold endsWithSlash
  rw [beq_eq_false_iff_ne]
  intro hslash
  obtain ⟨before, hbefore⟩ := List.getLast?_eq_some_iff.mp hslash
  -- Behind a slash at the end stands the empty part.
  rw [hbefore, splitAt_append_cons] at h
  have hempty : [] = last := List.singleton_inj.mp (List.append_inj_right' h rfl)
  exact hlast hempty.symm

/-- **A name without a slash is the last part of the path that it is joined to.**  It takes the
place of an empty part, or comes behind the other parts. -/
theorem splitAt_join (p : Path) {name : List Char} (h : '/' ∉ name) :
    ∃ names, splitAt '/' (p.join name).text.toList = names ++ [name] ∧
      (splitAt '/' p.text.toList = names ++ [[]] ∨
        splitAt '/' p.text.toList = names ∧ p.text.toList ≠ []) := by
  have hname : splitAt '/' name = [name] := splitAt_of_not_mem name h
  by_cases hnil : p.text.toList = []
  · -- The empty path: the name alone.
    have hjoin : p.join name = ⟨String.ofList name⟩ := by
      unfold join
      simp [hnil]
    refine ⟨[], ?_, .inl ?_⟩
    · rw [hjoin, String.toList_ofList, hname]
      rfl
    · rw [hnil]
      rfl
  · by_cases hlast : p.text.toList.getLast? = some '/'
    · -- The slash stands already.
      obtain ⟨before, hbefore⟩ := List.getLast?_eq_some_iff.mp hlast
      have hjoin : p.join name = ⟨String.ofList (before ++ '/' :: name)⟩ := by
        unfold join
        simp [hbefore]
      refine ⟨splitAt '/' before, ?_, .inl ?_⟩
      · rw [hjoin, String.toList_ofList, splitAt_append_cons, hname]
      · rw [hbefore, splitAt_append_cons]
        rfl
    · have hjoin : p.join name = ⟨String.ofList (p.text.toList ++ '/' :: name)⟩ := by
        unfold join
        simp [hnil, hlast]
      refine ⟨splitAt '/' p.text.toList, ?_, .inr ⟨rfl, hnil⟩⟩
      rw [hjoin, String.toList_ofList, splitAt_append_cons, hname]

/-- The other parts lead where the path does. -/
theorem exists_splitAt_join (p : Path) {name : List Char} (h : '/' ∉ name) :
    ∃ names, splitAt '/' (p.join name).text.toList = names ++ [name] ∧
      names.filterMap stepOf? = p.lead := by
  obtain ⟨names, hparts, hsplit | ⟨hsplit, -⟩⟩ := splitAt_join p h
  · -- An empty part is no step.
    refine ⟨names, hparts, ?_⟩
    rw [lead, hsplit, List.filterMap_append]
    exact (List.append_nil _).symm
  · refine ⟨names, hparts, ?_⟩
    rw [lead, hsplit]

/-- **A plain name adds one step to a path.** -/
theorem steps_join (p : Path) {name : List Char} (h : Plain name) :
    (p.join name).steps = p.lead ++ [.named (String.ofList name)] := by
  obtain ⟨names, hparts, hlead⟩ := exists_splitAt_join p h.noSlash
  have hend := endsWithSlash_eq_false hparts h.ne_nil
  unfold steps
  rw [hparts, hend, List.filterMap_append, hlead]
  simp [h.step]

/-- A plain name leaves the start of a path as it is. -/
theorem isAbsolute_join (p : Path) {name : List Char} (h : Plain name) :
    (p.join name).isAbsolute = p.isAbsolute := by
  unfold join isAbsolute
  cases hcs : p.text.toList with
  | nil =>
      -- The name is all of the path, and it does not begin with a slash.
      cases hname : name with
      | nil => exact absurd hname h.ne_nil
      | cons c rest =>
          have hc : c ≠ '/' := by
            rintro rfl
            exact h.noSlash (by rw [hname]; exact List.mem_cons_self)
          simp [hc]
  | cons c rest =>
      -- The path keeps its first character.
      dsimp only
      split
      · simp
      · simp

/-- Only an empty name is no step. -/
theorem exists_step {name : List Char} (h : name ≠ []) : ∃ step, stepOf? name = some step := by
  unfold stepOf?
  rw [if_neg (by simpa using h)]
  split
  · exact ⟨_, rfl⟩
  · split
    · exact ⟨_, rfl⟩
    · exact ⟨_, rfl⟩

/-- A step downwards has the name. -/
theorem ofList_of_stepOf? {name : List Char} {down : String}
    (h : stepOf? name = some (.named down)) : String.ofList name = down := by
  unfold stepOf? at h
  split at h
  · cases h
  · split at h
    · cases h
    · split at h
      · cases h
      · simpa using h

/-- A path whose last step leads down ends with the name of the step. -/
theorem exists_splitAt_of_steps {p : Path} {front : List Step} {down : String}
    (h : p.steps = front ++ [.named down]) :
    ∃ names last, splitAt '/' p.text.toList = names ++ [last] ∧ Plain last ∧
      String.ofList last = down ∧ names.filterMap stepOf? = front := by
  -- A slash at the end would make the last step one that stays.
  have hend : ¬ p.endsWithSlash = true := by
    intro hslash
    unfold steps at h
    rw [if_pos hslash] at h
    have hlast := (List.append_inj' h rfl).2
    cases hlast
  unfold steps at h
  rw [if_neg hend, List.append_nil] at h
  obtain ⟨names, last, hsplit, hnone, hne⟩ : ∃ names last,
      splitAt '/' p.text.toList = names ++ [last] ∧ '/' ∉ last ∧ last ≠ [] := by
    rcases cases_splitAt '/' p.text.toList with ⟨hnone, hone⟩ | ⟨before, last, htext, hnone, hcut⟩
    · refine ⟨[], p.text.toList, hone, hnone, fun hnil => ?_⟩
      rw [hnil] at h
      exact absurd h.symm (List.append_ne_nil_of_right_ne_nil front (List.cons_ne_nil _ _))
    · refine ⟨_, last, hcut, hnone, ?_⟩
      rintro rfl
      refine hend ?_
      unfold endsWithSlash
      rw [htext]
      simp
  obtain ⟨step, hstep⟩ := exists_step hne
  rw [hsplit, List.filterMap_append, List.filterMap_cons_some hstep, List.filterMap_nil] at h
  obtain ⟨hfront, hlast⟩ := List.append_inj' h rfl
  obtain rfl : step = .named down := List.singleton_inj.mp hlast
  have hdown := ofList_of_stepOf? hstep
  exact ⟨names, last, hsplit, ⟨hnone, by rw [hdown]; exact hstep⟩, hdown, hfront⟩

/-! ## §2. Parts. -/

/-- A path from the root begins with an empty part, and another one follows. -/
theorem exists_of_isAbsolute {p : Path} (h : p.isAbsolute = true) :
    ∃ names, splitAt '/' p.text.toList = [] :: names ∧ names ≠ [] := by
  unfold isAbsolute at h
  rw [beq_iff_eq] at h
  cases hcs : p.text.toList with
  | nil =>
      rw [hcs] at h
      cases h
  | cons c rest =>
      obtain rfl : c = '/' := by simpa [hcs] using h
      refine ⟨splitAt '/' rest, ?_, splitAt_ne_nil '/' rest⟩
      rw [splitAt, if_pos rfl]

/-- Only a path from the root begins with an empty part before others. -/
theorem isAbsolute_of_splitAt {p : Path} {rest : List (List Char)}
    (h : splitAt '/' p.text.toList = [] :: rest) (hrest : rest ≠ []) : p.isAbsolute = true := by
  unfold isAbsolute
  cases htext : p.text.toList with
  | nil =>
      rw [htext, splitAt, List.cons.injEq] at h
      exact absurd h.2.symm hrest
  | cons c cs =>
      by_cases hc : c = '/'
      · rw [hc]
        rfl
      · -- The first part would begin with the character.
        obtain ⟨tail, behind, hcut⟩ := exists_splitAt_cons hc cs
        rw [htext, hcut] at h
        cases h

/-- A path of one part does not start from the root. -/
theorem isAbsolute_eq_false {p : Path} {name : List Char}
    (h : splitAt '/' p.text.toList = [name]) : p.isAbsolute = false := by
  rw [Bool.eq_false_iff]
  intro habsolute
  obtain ⟨names, hnames, hne⟩ := exists_of_isAbsolute habsolute
  rw [h, List.cons.injEq] at hnames
  exact hne hnames.2.symm

/-- A path whose only part leads down starts from the current directory. -/
theorem parts_of_singleton {p : Path} {name : List Char}
    (h : splitAt '/' p.text.toList = [name]) (hname : Plain name) :
    p.parts = (.current, [name]) := by
  unfold parts
  rw [h]
  dsimp only
  rw [isAbsolute_eq_false h, if_neg Bool.false_ne_true, if_neg hname.ne_dot]

/-- A path from the root is one that starts there. -/
theorem parts_fst_eq_root_iff (p : Path) : p.parts.1 = .root ↔ p.isAbsolute = true := by
  unfold parts
  cases hsplit : splitAt '/' p.text.toList with
  | nil => exact absurd hsplit (splitAt_ne_nil '/' _)
  | cons first rest =>
      dsimp only
      split
      · rename_i habsolute
        simp [habsolute]
      · rename_i habsolute
        split
        · simp [habsolute]
        · simp [habsolute]

/-- The steps that the start of a path adds. -/
def Start.steps : Start → List Step
  | .dot => [.stay]
  | _ => []

/-- The last part of a path is among the names behind its start, if it leads down; the others
are the parts before it. -/
theorem exists_parts {p : Path} {names : List (List Char)} {name : List Char}
    (h : splitAt '/' p.text.toList = names ++ [name]) (hname : Plain name) :
    ∃ before, p.parts.2 = before ++ [name] ∧
      names.filterMap stepOf? = p.parts.1.steps ++ before.filterMap stepOf? ∧
      (p.parts.1 = .current → before = names) ∧ before <:+ names := by
  cases names with
  | nil =>
      rw [parts_of_singleton h hname]
      exact ⟨[], rfl, rfl, fun _ => rfl, List.suffix_rfl⟩
  | cons first names =>
      unfold parts
      rw [h, List.cons_append]
      dsimp only
      split
      · rename_i habsolute
        -- Before the slash of the root stands the empty part.
        obtain ⟨more, hmore, -⟩ := exists_of_isAbsolute habsolute
        rw [h, List.cons_append] at hmore
        obtain rfl := (List.cons.inj hmore).1
        exact ⟨names, rfl, rfl, fun hroot => (by cases hroot), List.suffix_cons _ _⟩
      · split
        · rename_i hdot
          rw [hdot]
          exact ⟨names, rfl, rfl, fun hstart => (by cases hstart), List.suffix_cons _ _⟩
        · exact ⟨first :: names, rfl, rfl, fun _ => rfl, List.suffix_rfl⟩

/-- **The last part of a path is its last name**, if it leads down. -/
theorem fileName?_of_splitAt {p : Path} {names : List (List Char)} {name : List Char}
    (h : splitAt '/' p.text.toList = names ++ [name]) (hname : Plain name) :
    p.fileName? = some name := by
  have hinert : ¬ isInert name = true := by
    unfold isInert
    simp [hname.ne_nil, hname.ne_dot]
  obtain ⟨before, hbefore, -⟩ := exists_parts h hname
  unfold fileName? namesBackwards
  rw [hbefore, List.reverse_append, List.reverse_singleton, List.singleton_append,
    List.dropWhile_cons_of_neg hinert]
  dsimp only
  rw [if_neg hname.ne_dots]

/-! ## §3. Neighbours. -/

/-- The directory in which the neighbours of a path lie. -/
def folder (p : Path) : Path :=
  match p.fileName? with
  | some _ => p.parent
  | none => p

/-- **All neighbours of a path lie in one folder.** -/
theorem withFileName_eq_join (p : Path) (name : List Char) :
    p.withFileName name = p.folder.join name := by
  unfold withFileName folder
  cases p.fileName? with
  | none => rfl
  | some last => rfl

/-- The last name of the path to a neighbour is that of the neighbour. -/
theorem fileName?_join (p : Path) {name : List Char} (h : Plain name) :
    (p.join name).fileName? = some name := by
  obtain ⟨names, hparts, -⟩ := exists_splitAt_join p h.noSlash
  exact fileName?_of_splitAt hparts h

/-- Names between slashes are cut apart again. -/
theorem splitAt_slashed (name : List Char) (names : List (List Char)) :
    (∀ n ∈ name :: names, '/' ∉ n) → splitAt '/' (slashed (name :: names)) = name :: names := by
  induction names generalizing name with
  | nil =>
      intro h
      have hname : slashed [name] = name := by simp [slashed]
      rw [hname]
      exact splitAt_of_not_mem name (h name List.mem_cons_self)
  | cons next names ih =>
      intro h
      have hname : '/' ∉ name := h name List.mem_cons_self
      have hcut : slashed (name :: next :: names) = name ++ '/' :: slashed (next :: names) := by
        simp [slashed]
      rw [hcut, splitAt_append_cons, splitAt_of_not_mem name hname,
        ih next fun n hn => h n (List.mem_cons_of_mem name hn)]
      rfl

/-- The steps of a path are those of its start and of its names. -/
theorem lead_ofParts (start : Start) {names : List (List Char)} (h : ∀ n ∈ names, '/' ∉ n) :
    (ofParts start names).lead = start.steps ++ names.filterMap stepOf? := by
  have hempty : stepOf? [] = none := rfl
  have hdot : stepOf? ['.'] = some .stay := rfl
  have hnames : (splitAt '/' (slashed names)).filterMap stepOf? = names.filterMap stepOf? := by
    cases names with
    | nil => rfl
    | cons name names => rw [splitAt_slashed name names h]
  unfold lead
  cases start with
  | root =>
      show (splitAt '/' (String.ofList ('/' :: slashed names)).toList).filterMap stepOf? = _
      rw [String.toList_ofList, splitAt, if_pos rfl, List.filterMap_cons_none hempty, hnames]
      rfl
  | dot =>
      cases names with
      | nil => rfl
      | cons name names =>
          show (splitAt '/'
            (String.ofList ('.' :: '/' :: slashed (name :: names))).toList).filterMap stepOf? = _
          rw [String.toList_ofList]
          show (splitAt '/' (['.'] ++ '/' :: slashed (name :: names))).filterMap stepOf? = _
          rw [splitAt_append_cons, List.filterMap_append, hnames]
          rfl
  | current =>
      show (splitAt '/' (String.ofList (slashed names)).toList).filterMap stepOf? = _
      rw [String.toList_ofList, hnames]
      rfl

/-- Names at the end that lead nowhere can be left out. -/
theorem exists_inert (names : List (List Char)) :
    ∃ inert, names = (names.reverse.dropWhile isInert).reverse ++ inert ∧
      ∀ n ∈ inert, isInert n = true := by
  refine ⟨(names.reverse.takeWhile isInert).reverse, ?_, fun n hn => ?_⟩
  · rw [← List.reverse_append, List.takeWhile_append_dropWhile, List.reverse_reverse]
  · exact List.mem_takeWhile_imp (List.mem_reverse.mp hn)

/-- A name that leads nowhere is no step, or one that stays. -/
theorem eq_stay_of_isInert {name : List Char} (h : isInert name = true) :
    ∀ step ∈ stepOf? name, step = .stay := by
  unfold isInert at h
  rw [Bool.or_eq_true, List.isEmpty_iff, beq_iff_eq] at h
  intro step hstep
  rcases h with rfl | rfl
  · cases hstep
  · exact (Option.some.inj hstep).symm

/-- The path without its last name, from its parts. -/
theorem parent_eq {p : Path} {before : List (List Char)} {name : List Char}
    (hparts : p.parts.2 = before ++ [name]) (hname : Plain name) :
    p.parent = ofParts p.parts.1 (before.reverse.dropWhile isInert).reverse := by
  have hinert : ¬ isInert name = true := by
    unfold isInert
    simp [hname.ne_nil, hname.ne_dot]
  unfold parent namesBackwards
  rw [hparts, List.reverse_append, List.reverse_singleton, List.singleton_append,
    List.dropWhile_cons_of_neg hinert]
  rfl

/-- **The path without its last name leads to the folder of the name**: it has the steps of the
parts before the name, up to some that stay. -/
theorem exists_lead_parent {p : Path} {names : List (List Char)} {name : List Char}
    (h : splitAt '/' p.text.toList = names ++ [name]) (hname : Plain name) :
    ∃ stays, names.filterMap stepOf? = p.parent.lead ++ stays ∧ ∀ step ∈ stays, step = .stay := by
  obtain ⟨before, hparts, hsteps, -, hsuffix⟩ := exists_parts h hname
  obtain ⟨inert, hbefore, hinert⟩ := exists_inert before
  have hnone : ∀ n ∈ (before.reverse.dropWhile isInert).reverse, '/' ∉ n := by
    intro n hn
    have hmem : n ∈ names := hsuffix.subset (by rw [hbefore]; exact List.mem_append_left inert hn)
    refine not_mem_of_mem_splitAt p.text.toList n ?_
    rw [h]
    exact List.mem_append_left [name] hmem
  refine ⟨inert.filterMap stepOf?, ?_, fun step hstep => ?_⟩
  · rw [hsteps, parent_eq hparts hname, lead_ofParts _ hnone, List.append_assoc,
      ← List.filterMap_append, ← hbefore]
  · obtain ⟨n, hn, hstep⟩ := List.mem_filterMap.mp hstep
    exact eq_stay_of_isInert (hinert n hn) step hstep

/-- The path without its last name starts where the path does. -/
theorem isAbsolute_parent {p : Path} {names : List (List Char)} {name : List Char}
    (h : splitAt '/' p.text.toList = names ++ [name]) (hname : Plain name) :
    p.parent.isAbsolute = p.isAbsolute := by
  obtain ⟨before, hparts, -, hcurrent, -⟩ := exists_parts h hname
  rw [parent_eq hparts hname]
  have hroot := p.parts_fst_eq_root_iff
  cases hstart : p.parts.1 with
  | root =>
      rw [hroot.mp hstart]
      unfold isAbsolute ofParts
      simp
  | dot =>
      have hrelative : p.isAbsolute = false := by
        rw [Bool.eq_false_iff, ne_eq, ← hroot, hstart]
        simp
      rw [hrelative]
      cases (before.reverse.dropWhile isInert).reverse with
      | nil => rfl
      | cons n ns =>
          unfold isAbsolute ofParts
          rw [String.toList_ofList]
          rfl
  | current =>
      have hrelative : p.isAbsolute = false := by
        rw [Bool.eq_false_iff, ne_eq, ← hroot, hstart]
        simp
      rw [hrelative]
      obtain rfl := hcurrent hstart
      obtain ⟨inert, hnames, -⟩ := exists_inert before
      cases hkept : (before.reverse.dropWhile isInert).reverse with
      | nil => rfl
      | cons n ns =>
          -- The first name is not empty and has no slash.
          rw [hkept] at hnames
          have hcut : splitAt '/' p.text.toList = n :: (ns ++ inert ++ [name]) := by
            rw [h, hnames]
            simp
          have hnone : '/' ∉ n := by
            refine not_mem_of_mem_splitAt p.text.toList n ?_
            rw [hcut]
            exact List.mem_cons_self
          cases n with
          | nil =>
              rw [isAbsolute_of_splitAt hcut (by simp)] at hrelative
              cases hrelative
          | cons c n =>
              have hc : c ≠ '/' := fun heq => hnone (by rw [heq]; exact List.mem_cons_self)
              have hhead : (slashed ((c :: n) :: ns)).head? = some c := by
                cases ns with
                | nil => simp [slashed]
                | cons m ns => simp [slashed]
              unfold isAbsolute ofParts
              rw [String.toList_ofList, hhead]
              simpa using hc

/-! ## §4. Stems. -/

/-- No name behind the start of a path has a slash. -/
theorem slash_not_mem_parts {p : Path} {name : List Char} (h : name ∈ p.parts.2) : '/' ∉ name := by
  -- The names are parts between slashes.
  have hsplit : name ∈ splitAt '/' p.text.toList := by
    unfold parts at h
    split at h
    · cases h
    · rename_i first rest hcut
      rw [hcut]
      split at h
      · exact List.mem_cons_of_mem first h
      · split at h
        · exact List.mem_cons_of_mem first h
        · exact h
  exact not_mem_of_mem_splitAt _ name hsplit

/-- The last name of a path is the last of its names that count. -/
theorem exists_namesBackwards {p : Path} {name : List Char} (h : p.fileName? = some name) :
    ∃ rest, p.namesBackwards = name :: rest := by
  unfold fileName? at h
  split at h
  · cases h
  · rename_i first rest hnames
    split at h
    · cases h
    · obtain rfl : first = name := Option.some.inj h
      exact ⟨rest, hnames⟩

/-- The last name of a path has no slash. -/
theorem slash_not_mem_fileName {p : Path} {name : List Char} (h : p.fileName? = some name) :
    '/' ∉ name := by
  obtain ⟨rest, hnames⟩ := exists_namesBackwards h
  have hback : name ∈ p.namesBackwards := by
    rw [hnames]
    exact List.mem_cons_self
  exact slash_not_mem_parts (List.mem_reverse.mp ((List.dropWhile_sublist _).subset hback))

/-- A name cut at its last dot begins the name. -/
theorem cutName_begins (name : List Char) : (cutName name).1 <+: name := by
  unfold cutName
  split
  · rename_i c before behind hcut
    rw [(splitLast?_eq_some_iff.mp hcut).1]
    exact List.prefix_append _ _
  · exact List.prefix_rfl

/-- **What a name is cut at is its last dot, which is not its first character.** -/
theorem cutName_snd_eq_some_iff {name behind : List Char} :
    (cutName name).2 = some behind ↔
      '.' ∉ behind ∧ ∃ front, front ≠ [] ∧ name = front ++ '.' :: behind := by
  unfold cutName
  constructor
  · intro h
    split at h
    · rename_i c before found hfound
      obtain rfl : found = behind := Option.some.inj h
      obtain ⟨hname, hnone⟩ := splitLast?_eq_some_iff.mp hfound
      exact ⟨hnone, c :: before, List.cons_ne_nil c before, hname⟩
    · cases h
  · rintro ⟨hnone, front, hne, hname⟩
    have hcut : splitLast? '.' name = some (front, behind) :=
      splitLast?_eq_some_iff.mpr ⟨hname, hnone⟩
    rw [hcut]
    cases front with
    | nil => exact absurd rfl hne
    | cons c front => rfl

/-- **No stem has a slash.** -/
theorem slash_not_mem_stem (p : Path) : '/' ∉ p.stem := by
  unfold stem
  cases hname : p.fileName? with
  | none => exact List.not_mem_nil
  | some name =>
      intro hmem
      exact slash_not_mem_fileName hname ((cutName_begins name).subset hmem)

end Path

end Fanout
