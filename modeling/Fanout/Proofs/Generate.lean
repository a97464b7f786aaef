/-
  Fanout.Proofs.Generate
  ──────────────────────
  **From a source to its files: what a whole run does.**

  All combinations are resolved before the first file is written, so a
  derived name without a value leaves the files as they are.  After that
  the files are written in order up to the first that fails:

    • `Wrote` — files of combinations written one after the other,
    • `Stopped` — why the next one is not,
    • `writeAll_spec` — a run of writes is the one and ends with the other,
    • `Wrote.frame`, `Wrote.exists_content` — what such a run leaves where,
    • `generate_spec` — the whole run of an accepted source.
-/
import Fanout.Generate
import Fanout.Proofs.Effect
import Fanout.Proofs.Output
import Fanout.Proofs.Source.Names

namespace Fanout

open Fanout.Files Fanout.Template Fanout.Expr

/-! ## §1. One file. -/

/-- The file of a combination, rendered and written. -/
def WroteFile (o : OutputSettings) (s : Source) (before : FileSystem) (c : Combination)
    (after : FileSystem) : Prop :=
  ∃ body, render s.template s.templateLine c.bindings = .ok body ∧
    before.write (o.pathFor s.path c.index) (o.contentFor s.path body) = .ok after

/-- Why the file of a combination is not written. -/
inductive Stopped (o : OutputSettings) (s : Source) (files : FileSystem) (c : Combination) :
    GenerateFault → Prop
  /-- The template cannot be filled. -/
  | rendering {cause : RenderError}
      (unfilled : render s.template s.templateLine c.bindings = .error cause) :
      Stopped o s files c (.render s.path.fileName c cause)
  /-- The file cannot be written. -/
  | writing {body : String} {cause : Fault}
      (filled : render s.template s.templateLine c.bindings = .ok body)
      (unwritten :
        files.write (o.pathFor s.path c.index) (o.contentFor s.path body) = .error cause) :
      Stopped o s files c (.write ⟨o.pathFor s.path c.index, cause⟩)

/-- **A combination is written, or the files stay as they are.** -/
theorem writeCombination_spec (o : OutputSettings) (s : Source) (files : FileSystem)
    (c : Combination) :
    (WroteFile o s files c (writeCombination o s files c).files ∧
        (writeCombination o s files c).result = .ok (o.pathFor s.path c.index)) ∨
      ((writeCombination o s files c).files = files ∧
        ∃ fault, Stopped o s files c fault ∧
          (writeCombination o s files c).result = .error fault) := by
  unfold writeCombination
  cases hfilled : substitute s.template s.templateLine c.bindings with
  | error cause =>
      have hrender : render s.template s.templateLine c.bindings = .error cause := by
        rw [render, hfilled]
        rfl
      exact .inr ⟨rfl, _, .rendering hrender, rfl⟩
  | ok filled =>
      have hrender : render s.template s.templateLine c.bindings =
          .ok (resolveSpans filled c.bindings) := by
        rw [render, hfilled]
        rfl
      dsimp only
      cases hwritten : o.write files s.path c.index (resolveSpans filled c.bindings) with
      | error fault =>
          obtain ⟨hpath, hcause⟩ := (o.write_eq_error_iff files s.path c.index _ fault).mp hwritten
          obtain ⟨path, cause⟩ := fault
          obtain rfl : path = o.pathFor s.path c.index := hpath
          exact .inr ⟨rfl, _, .writing hrender hcause, rfl⟩
      | ok after =>
          have hafter := (o.write_eq_ok_iff files s.path c.index _ after).mp hwritten
          exact .inl ⟨⟨_, hrender, hafter⟩, rfl⟩

/-! ## §2. One file after the other. -/

/-- The files of combinations, rendered and written one after the other. -/
inductive Wrote (o : OutputSettings) (s : Source) :
    FileSystem → List Combination → FileSystem → Prop
  /-- Nothing is written. -/
  | nil (files : FileSystem) : Wrote o s files [] files
  /-- One file is written, then others. -/
  | cons {before mid after : FileSystem} {c : Combination} {cs : List Combination}
      (first : WroteFile o s before c mid) (others : Wrote o s mid cs after) :
      Wrote o s before (c :: cs) after

/-- **A run of writes writes the files of the first combinations, up to one that stops it.** -/
theorem writeAll_spec (o : OutputSettings) (s : Source) (cs : List Combination) :
    ∀ files : FileSystem,
      ∃ k ≤ cs.length, Wrote o s files (cs.take k) (writeAll o s files cs).files ∧
        (k = cs.length ∧ (writeAll o s files cs).result =
            .ok (cs.map fun c => o.pathFor s.path c.index) ∨
          ∃ c fault, cs[k]? = some c ∧ Stopped o s (writeAll o s files cs).files c fault ∧
            (writeAll o s files cs).result = .error fault) := by
  induction cs with
  | nil => intro files; exact ⟨0, Nat.le_refl 0, .nil files, .inl ⟨rfl, rfl⟩⟩
  | cons c cs ih =>
      intro files
      rcases writeCombination_spec o s files c with
        ⟨hfirst, hresult⟩ | ⟨hfiles, fault, hstopped, hresult⟩
      · -- The file of the first combination is written: go on from there.
        obtain ⟨k, hk, hwrote, hend⟩ := ih (writeCombination o s files c).files
        refine ⟨k + 1, Nat.succ_le_succ hk, ?_⟩
        rw [writeAll, Effect.andThen_of_ok hresult]
        rcases hend with ⟨hlength, hok⟩ | ⟨d, fault, hd, hstopped, herror⟩
        · rw [Effect.andThen_of_ok hok]
          exact ⟨.cons hfirst hwrote, .inl ⟨congrArg Nat.succ hlength, rfl⟩⟩
        · rw [Effect.andThen_of_error herror]
          exact ⟨.cons hfirst hwrote, .inr ⟨d, fault, hd, hstopped, rfl⟩⟩
      · -- It is not: nothing is written, and the run ends here.
        refine ⟨0, Nat.zero_le _, ?_⟩
        rw [writeAll, Effect.andThen_of_error hresult, hfiles]
        exact ⟨.nil files, .inr ⟨c, fault, rfl, hstopped, rfl⟩⟩

namespace Wrote

variable {o : OutputSettings} {s : Source}

/-- A run of writes can be cut anywhere. -/
theorem of_append {xs ys : List Combination} : ∀ {before after : FileSystem},
    Wrote o s before (xs ++ ys) after →
      ∃ mid, Wrote o s before xs mid ∧ Wrote o s mid ys after := by
  induction xs with
  | nil =>
      intro before after h
      exact ⟨before, .nil before, h⟩
  | cons c xs ih =>
      intro before after h
      cases h with
      | cons first others =>
          obtain ⟨mid, hxs, hys⟩ := ih others
          exact ⟨mid, .cons first hxs, hys⟩

/-- Writes leave the outline as it is. -/
theorem sameOutline {before after : FileSystem} {cs : List Combination}
    (h : Wrote o s before cs after) : FileSystem.SameOutline before after := by
  induction h with
  | nil files => exact .refl files
  | cons first others ih =>
      obtain ⟨body, -, hwrite⟩ := first
      exact (FileSystem.sameOutline_of_write hwrite).trans ih

/-- **Places to which no path leads keep what they hold.** -/
theorem frame {before after : FileSystem} {cs : List Combination} (h : Wrote o s before cs after)
    {place : Location}
    (hplace : ∀ c ∈ cs, before.placeToWrite (o.pathFor s.path c.index) ≠ .ok place) :
    after.node? place = before.node? place := by
  induction h with
  | nil files => rfl
  | @cons before mid after c cs first others ih =>
      obtain ⟨body, -, hwrite⟩ := first
      have hmid : mid.node? place = before.node? place := by
        obtain ⟨found, hfound, -⟩ := (FileSystem.write_eq_ok_iff _ _ _ _).mp hwrite
        have hne : ¬ found = place := by
          rintro rfl
          exact hplace c List.mem_cons_self hfound
        rw [FileSystem.node?_write hwrite hfound, if_neg hne]
      rw [← hmid]
      -- The first write has turned no path away, so the others miss the place as well.
      refine ih fun d hd hpath => hplace d (List.mem_cons_of_mem c hd) ?_
      exact (FileSystem.placeToWrite_eq (FileSystem.sameOutline_of_write hwrite) _ place).mp hpath

/-- **The place of a path holds the file that was written there last.** -/
theorem exists_content {before after : FileSystem} {done more : List Combination}
    {c : Combination} (h : Wrote o s before (done ++ c :: more) after) :
    ∃ place body, before.placeToWrite (o.pathFor s.path c.index) = .ok place ∧
      render s.template s.templateLine c.bindings = .ok body ∧
        ((∀ d ∈ more, before.placeToWrite (o.pathFor s.path d.index) ≠ .ok place) →
          after.node? place = some (.file (o.contentFor s.path body))) := by
  obtain ⟨mid, hdone, hmore⟩ := h.of_append
  cases hmore with
  | @cons _ next _ _ _ first others =>
      obtain ⟨body, hbody, hwrite⟩ := first
      obtain ⟨place, hplace, -⟩ := (FileSystem.write_eq_ok_iff _ _ _ _).mp hwrite
      refine ⟨place, body, (FileSystem.placeToWrite_eq hdone.sameOutline _ place).mp hplace, hbody,
        fun hlast => ?_⟩
      have houtline := hdone.sameOutline.trans (FileSystem.sameOutline_of_write hwrite)
      -- The place holds the file after its own write, and the later ones leave it alone.
      have hkept : after.node? place = next.node? place := by
        refine others.frame fun d hd hpath => hlast d hd ?_
        exact (FileSystem.placeToWrite_eq houtline _ place).mp hpath
      rw [hkept, FileSystem.node?_write hwrite hplace, if_pos rfl]

end Wrote

/-! ## §3. Resolving every combination. -/

namespace Source

/-- The combination with a number from 0 after the declarations of derived names. -/
def resolved (s : Source) (n : Nat) : Combination := ⟨n + 1, (s.resolution n).1⟩

theorem resolveIn_ok {s : Source} {n : Nat} (h : (s.resolution n).2 = none) :
    resolveIn s.derived (combinationAt s.vars n) = .ok (s.resolved n) := by
  rcases hr : s.resolution n with ⟨b, failure⟩
  rw [hr] at h
  obtain rfl : failure = none := h
  have hderived : resolveDerived (combinationAt s.vars n).bindings.withTimestamps s.derived =
      (b, none) := hr
  unfold resolveIn resolved
  rw [hderived, hr]
  rfl

theorem resolveIn_error {s : Source} {n : Nat} {e : DerivedError}
    (h : (s.resolution n).2 = some e) :
    resolveIn s.derived (combinationAt s.vars n) = .error e := by
  rcases hr : s.resolution n with ⟨b, failure⟩
  rw [hr] at h
  obtain rfl : failure = some e := h
  have hderived : resolveDerived (combinationAt s.vars n).bindings.withTimestamps s.derived =
      (b, some e) := hr
  unfold resolveIn
  rw [hderived]

/-- Combinations that can be resolved are. -/
theorem resolveAll_ok (s : Source) (ns : List Nat) : (∀ n ∈ ns, (s.resolution n).2 = none) →
    resolveAll s.derived (ns.map (combinationAt s.vars)) = .ok (ns.map s.resolved) := by
  induction ns with
  | nil => intro _; rfl
  | cons n ns ih =>
      intro h
      have hns := ih fun m hm => h m (List.mem_cons_of_mem n hm)
      rw [List.map_cons, resolveAll, resolveIn_ok (h n List.mem_cons_self)]
      dsimp only
      rw [hns]
      rfl

/-- **The first combination that cannot be resolved is the failure of all.** -/
theorem resolveAll_error (s : Source) {n : Nat} {e : DerivedError}
    (hn : (s.resolution n).2 = some e) (behind before : List Nat) :
    (∀ m ∈ before, (s.resolution m).2 = none) →
    resolveAll s.derived ((before ++ n :: behind).map (combinationAt s.vars)) = .error e := by
  induction before with
  | nil =>
      intro _
      rw [List.nil_append, List.map_cons, resolveAll, resolveIn_error hn]
  | cons m before ih =>
      intro h
      have hbefore := ih fun l hl => h l (List.mem_cons_of_mem m hl)
      rw [List.cons_append, List.map_cons, resolveAll, resolveIn_ok (h m List.mem_cons_self)]
      dsimp only
      rw [hbefore]
      rfl

/-- Combinations that are all resolved can be. -/
theorem resolved_of_resolveAll (s : Source) (ns : List Nat) :
    ∀ {cs : List Combination},
      resolveAll s.derived (ns.map (combinationAt s.vars)) = .ok cs →
        (∀ n ∈ ns, (s.resolution n).2 = none) ∧ cs = ns.map s.resolved := by
  induction ns with
  | nil =>
      intro cs h
      cases h
      exact ⟨fun _ hn => absurd hn List.not_mem_nil, rfl⟩
  | cons n ns ih =>
      intro cs h
      rw [List.map_cons, resolveAll] at h
      cases hn : (s.resolution n).2 with
      | some e =>
          rw [resolveIn_error hn] at h
          cases h
      | none =>
          rw [resolveIn_ok hn] at h
          dsimp only at h
          cases hall : resolveAll s.derived (ns.map (combinationAt s.vars)) with
          | error e =>
              rw [hall] at h
              cases h
          | ok ds =>
              rw [hall] at h
              obtain ⟨hns, rfl⟩ := ih hall
              obtain rfl := Except.ok.inj h
              refine ⟨fun m hm => ?_, rfl⟩
              rcases List.mem_cons.mp hm with rfl | hm
              · exact hn
              · exact hns m hm

end Source

/-- The numbers below another one, cut at one of them. -/
theorem exists_range_eq {i n : Nat} (h : i < n) :
    ∃ behind, List.range n = List.range i ++ i :: behind ∧ ∀ j ∈ behind, i < j ∧ j < n := by
  refine ⟨(List.range (n - i - 1)).map fun j => i + 1 + j, ?_, ?_⟩
  · have hn : n = i + 1 + (n - i - 1) := by omega
    conv => lhs; rw [hn]
    -- range (i + 1) is range i and i itself
    rw [List.range_add, List.range_succ, List.append_assoc]
    rfl
  · intro j hj
    obtain ⟨k, hk, rfl⟩ := List.mem_map.mp hj
    rw [List.mem_range] at hk
    omega

/-! ## §4. The whole run. -/

/-- The first `k` files of a source are written, in order, and nothing else is changed. -/
structure FirstWritten (o : OutputSettings) (s : Source) (files : FileSystem) (k : Nat)
    (left : FileSystem) : Prop where
  /-- One file is written after the other. -/
  wrote : Wrote o s files ((List.range k).map s.resolved) left
  /-- A file that no later one takes the place of holds the headline and the body. -/
  content : ∀ i < k, ∃ place body,
    files.placeToWrite (o.pathFor s.path (i + 1)) = .ok place ∧
      render s.template s.templateLine (s.resolution i).1 = .ok body ∧
        ((∀ j, i < j → j < k → files.placeToWrite (o.pathFor s.path (j + 1)) ≠ .ok place) →
          left.node? place = some (.file (o.contentFor s.path body)))
  /-- All other places are as they were. -/
  frame : ∀ place, (∀ i < k, files.placeToWrite (o.pathFor s.path (i + 1)) ≠ .ok place) →
    left.node? place = files.node? place

/-- What is written is where it belongs. -/
theorem firstWritten_of_wrote {o : OutputSettings} {s : Source} {files left : FileSystem} {k : Nat}
    (h : Wrote o s files ((List.range k).map s.resolved) left) : FirstWritten o s files k left := by
  refine ⟨h, fun i hi => ?_, fun place hplace => ?_⟩
  · obtain ⟨behind, hrange, hbehind⟩ := exists_range_eq hi
    have hwrote := h
    rw [hrange, List.map_append, List.map_cons] at hwrote
    obtain ⟨place, body, hplace, hbody, hcontent⟩ := hwrote.exists_content
    refine ⟨place, body, hplace, hbody, fun hlast => hcontent fun d hd => ?_⟩
    obtain ⟨j, hj, rfl⟩ := List.mem_map.mp hd
    exact hlast j (hbehind j hj).1 (hbehind j hj).2
  · refine h.frame fun c hc => ?_
    obtain ⟨i, hi, rfl⟩ := List.mem_map.mp hc
    exact hplace i (List.mem_range.mp hi)

/-- Without links and slashes in the extension no file takes the place of another, so that all
are there at the end. -/
theorem FirstWritten.readText {o : OutputSettings} {s : Source} {files left : FileSystem} {k : Nat}
    (h : FirstWritten o s files k left) (hfree : files.LinkFree)
    (hext : '/' ∉ o.extension.toList) {i : Nat} (hi : i < k) :
    ∃ body, render s.template s.templateLine (s.resolution i).1 = .ok body ∧
      left.readText (o.pathFor s.path (i + 1)) = .ok (o.headline s.path ++ body) := by
  obtain ⟨place, body, hplace, hbody, hcontent⟩ := h.content i hi
  refine ⟨body, hbody, ?_⟩
  have hnode : left.node? place = some (.file (o.contentFor s.path body)) := by
    refine hcontent fun j hij _ hj => ?_
    -- A later file at the same place would have the same number.
    have heq := ((OutputSettings.place_pathFor_eq_iff hfree hext hplace hj).mp rfl).2.2
    omega
  exact FileSystem.readText_of_node
    ((FileSystem.placeToWrite_eq h.wrote.sameOutline _ place).mpr hplace) hnode

theorem generate_of_resolveAll_error {path : Path} {text : String} {s : Source}
    (hs : Source.ofText path text = .ok s) (hn : combinationVolume s.vars ≤ maxCombinations)
    (o : OutputSettings) (files : FileSystem) {e : DerivedError}
    (he : resolveAll s.derived
      ((List.range (combinationVolume s.vars)).map (combinationAt s.vars)) = .error e) :
    generate o files s = .failed files (.derived s.path.fileName e) := by
  have hne := Source.values_ne_nil_of_mem (Source.of_ofText hs).2
  unfold generate
  rw [combinationCount?_eq hne hn, combinations_eq hne hn, he]

/-- Combinations that can be resolved are written, and nothing else happens to the files. -/
theorem generate_of_count {s : Source} {n : Nat} (hn : combinationCount? s.vars = some n)
    (o : OutputSettings) (files : FileSystem) {cs : List Combination}
    (hcs : resolveAll s.derived ((List.range n).map (combinationAt s.vars)) = .ok cs) :
    (generate o files s).files = (writeAll o s files cs).files ∧
      (generate o files s).result =
        (writeAll o s files cs).result.map fun written => ⟨s.path, cs.length, written⟩ := by
  unfold generate combinations
  rw [hn, Option.getD_some, hcs]
  dsimp only
  refine ⟨by rw [Effect.files_andThen fun _ _ => rfl, Effect.files_after], ?_⟩
  cases hwritten : (writeAll o s files cs).result with
  | error fault =>
      rw [Effect.andThen_of_error (by rw [Effect.result_after, hwritten])]
      rfl
  | ok written =>
      rw [Effect.andThen_of_ok (by rw [Effect.result_after, hwritten])]
      rfl

theorem generate_of_resolveAll_ok {path : Path} {text : String} {s : Source}
    (hs : Source.ofText path text = .ok s) (hn : combinationVolume s.vars ≤ maxCombinations)
    (o : OutputSettings) (files : FileSystem) {cs : List Combination}
    (hcs : resolveAll s.derived
      ((List.range (combinationVolume s.vars)).map (combinationAt s.vars)) = .ok cs) :
    (generate o files s).files = (writeAll o s files cs).files ∧
      (generate o files s).result =
        (writeAll o s files cs).result.map fun written => ⟨s.path, cs.length, written⟩ :=
  generate_of_count
    (combinationCount?_eq (Source.values_ne_nil_of_mem (Source.of_ofText hs).2) hn) o files hcs

/-- **A source fails before anything is written, or all of its combinations are resolved and
then written.** -/
theorem generate_cases (o : OutputSettings) (files : FileSystem) (s : Source) :
    ((generate o files s).files = files ∧
        ((generate o files s).result = .error (.tooManyCombinations s.path.fileName) ∨
          ∃ e, (generate o files s).result = .error (.derived s.path.fileName e))) ∨
      (combinationCount? s.vars = some (combinationVolume s.vars) ∧
        (∀ i < combinationVolume s.vars, (s.resolution i).2 = none) ∧
        ∃ w, w = writeAll o s files ((List.range (combinationVolume s.vars)).map s.resolved) ∧
          (generate o files s).files = w.files ∧
          (generate o files s).result =
            w.result.map fun written => ⟨s.path, combinationVolume s.vars, written⟩) := by
  cases hn : combinationCount? s.vars with
  | none =>
      have hgenerate :
          generate o files s = .failed files (.tooManyCombinations s.path.fileName) := by
        unfold generate
        rw [hn]
      rw [hgenerate]
      exact .inl ⟨rfl, .inl rfl⟩
  | some n =>
      obtain ⟨rfl, -⟩ := eq_of_combinationCount? hn
      cases hcs : resolveAll s.derived
          ((List.range (combinationVolume s.vars)).map (combinationAt s.vars)) with
      | error e =>
          have hgenerate :
              generate o files s = .failed files (.derived s.path.fileName e) := by
            unfold generate combinations
            rw [hn, Option.getD_some, hcs]
          rw [hgenerate]
          exact .inl ⟨rfl, .inr ⟨e, rfl⟩⟩
      | ok cs =>
          obtain ⟨hresolved, heq⟩ := s.resolved_of_resolveAll _ hcs
          obtain ⟨hfiles, hresult⟩ := generate_of_count hn o files hcs
          rw [heq] at hfiles hresult
          rw [List.length_map, List.length_range] at hresult
          exact .inr ⟨rfl, fun i hi => hresolved i (List.mem_range.mpr hi), _, rfl, hfiles, hresult⟩

/-- **The whole run of an accepted source** with at most `maxCombinations` combinations.

If the derived names of a combination cannot be resolved, the result names the file with the
failure of the first such combination, which is that of its first declaration without a value,
and no file is touched.  Otherwise the files are written in order up to the first that cannot be
rendered or written; the result is its failure, or the list of all files.  Every place to which
no path of a written file leads keeps what it holds, and a written file holds the headline and
the body as long as no later one takes its place, which cannot happen where there are neither
links nor slashes in the extension. -/
theorem generate_spec (o : OutputSettings) (files : FileSystem) {path : Path} {text : String}
    {s : Source} (hs : Source.ofText path text = .ok s)
    (hn : combinationVolume s.vars ≤ maxCombinations) :
    (∀ i < combinationVolume s.vars, (∀ j < i, (s.resolution j).2 = none) →
      ∀ e, (s.resolution i).2 = some e →
        (generate o files s).files = files ∧
          (generate o files s).result = .error (.derived s.path.fileName e) ∧
          ∃ before d behind cause, s.derived = before ++ d :: behind ∧
            resolveDerived (s.start i) before = ((s.resolution i).1, none) ∧
            evaluate d.expression (s.resolution i).1 = .error cause ∧
            e = ⟨d.name, d.line, cause⟩)
    ∧ ((∀ i < combinationVolume s.vars, (s.resolution i).2 = none) →
      ∃ k ≤ combinationVolume s.vars, FirstWritten o s files k (generate o files s).files ∧
        (files.LinkFree → '/' ∉ o.extension.toList → ∀ i < k, ∃ body,
          render s.template s.templateLine (s.resolution i).1 = .ok body ∧
            (generate o files s).files.readText (o.pathFor s.path (i + 1)) =
              .ok (o.headline s.path ++ body)) ∧
        (k = combinationVolume s.vars ∧ (generate o files s).result =
            .ok ⟨s.path, k, (List.range k).map fun i => o.pathFor s.path (i + 1)⟩ ∨
          k < combinationVolume s.vars ∧ ∃ fault,
            Stopped o s (generate o files s).files (s.resolved k) fault ∧
              (generate o files s).result = .error fault)) := by
  refine ⟨fun i hi hbefore e he => ?_, fun hall => ?_⟩
  · -- All combinations before the failing one are resolved; none is written.
    obtain ⟨behind, hrange, -⟩ := exists_range_eq hi
    have hresolve := s.resolveAll_error he behind (List.range i) fun j hj =>
      hbefore j (List.mem_range.mp hj)
    rw [← hrange] at hresolve
    have hresolution : resolveDerived (s.start i) s.derived = ((s.resolution i).1, some e) := by
      rw [← he]
      rfl
    rw [generate_of_resolveAll_error hs hn o files hresolve]
    exact ⟨rfl, rfl, exists_of_resolveDerived_error s.derived hresolution⟩
  · -- All combinations are resolved; the run of writes says how far it gets.
    have hresolve := s.resolveAll_ok (List.range (combinationVolume s.vars)) fun i hi =>
      hall i (List.mem_range.mp hi)
    obtain ⟨hfiles, hresult⟩ := generate_of_resolveAll_ok hs hn o files hresolve
    obtain ⟨k, hk, hwrote, hend⟩ := writeAll_spec o s
      ((List.range (combinationVolume s.vars)).map s.resolved) files
    rw [List.length_map, List.length_range] at hk hend
    rw [← List.map_take, List.take_range, Nat.min_eq_left hk, ← hfiles] at hwrote
    have hfirst := firstWritten_of_wrote hwrote
    refine ⟨k, hk, hfirst, fun hfree hext i hi => hfirst.readText hfree hext hi, ?_⟩
    rcases hend with ⟨rfl, hok⟩ | ⟨c, fault, hc, hstopped, herror⟩
    · rw [hok] at hresult
      refine .inl ⟨rfl, ?_⟩
      rw [hresult, List.map_map, List.length_map, List.length_range]
      rfl
    · rw [List.getElem?_map, Option.map_eq_some_iff] at hc
      obtain ⟨i, hi, rfl⟩ := hc
      obtain ⟨hlt, rfl⟩ : k < combinationVolume s.vars ∧ k = i := by
        simpa [List.getElem?_eq_some_iff] using hi
      rw [← hfiles] at hstopped
      rw [herror] at hresult
      exact .inr ⟨hlt, fault, hstopped, hresult⟩

/-- A source whose second combination divides by zero. -/
def dividing : Source :=
  ⟨⟨"demo.crankgen"⟩,
    [.domain ⟨"a", .typed, [.int 1, .int 0], 1⟩, .derived ⟨"b", "1 // a", 2⟩], "$b\n", 4⟩

/-- Not even the file of its first combination is written. -/
theorem generate_dividing :
    Source.ofText ⟨"demo.crankgen"⟩
        "VAR a = 1, 0\nLAMBDA b = 1 // a\nBEGIN_TEMPLATE\n$b\n" = .ok dividing ∧
      combinationVolume dividing.vars ≤ maxCombinations ∧
      (generate .standard (.empty ["work"]) dividing).files = .empty ["work"] ∧
      (generate .standard (.empty ["work"]) dividing).result =
        .error (.derived "demo.crankgen" ⟨"b", 2, .divisionByZero⟩) := by
  have htext : Source.ofText ⟨"demo.crankgen"⟩
      "VAR a = 1, 0\nLAMBDA b = 1 // a\nBEGIN_TEMPLATE\n$b\n" = .ok dividing := rfl
  have hn : combinationVolume dividing.vars ≤ maxCombinations := by decide
  have hfirst : (dividing.resolution 0).2 = none := by decide +kernel
  have hsecond : (dividing.resolution 1).2 = some ⟨"b", 2, .divisionByZero⟩ := by
    decide +kernel
  have hrun := (generate_spec .standard (.empty ["work"]) htext hn).1 1 (by decide)
    (fun j hj => by rw [Nat.lt_one_iff.mp hj]; exact hfirst) _ hsecond
  exact ⟨htext, hn, hrun.1, hrun.2.1⟩

/-! ## §5. What a source leaves alone. -/

/-- **A source changes no place but those of its files**, and leaves the outline as it is. -/
theorem generate_frame (o : OutputSettings) (files : FileSystem) (s : Source) :
    FileSystem.SameOutline files (generate o files s).files ∧
      ∀ place, (∀ i < (combinationCount? s.vars).getD 0,
          files.placeToWrite (o.pathFor s.path (i + 1)) ≠ .ok place) →
        (generate o files s).files.node? place = files.node? place := by
  rcases generate_cases o files s with ⟨hfiles, -⟩ | ⟨hn, -, w, rfl, hfiles, -⟩
  · rw [hfiles]
    exact ⟨.refl files, fun _ _ => rfl⟩
  · obtain ⟨k, -, hwrote, -⟩ := writeAll_spec o s
      ((List.range (combinationVolume s.vars)).map s.resolved) files
    rw [hfiles, hn, Option.getD_some]
    refine ⟨hwrote.sameOutline, fun place hplace => hwrote.frame fun c hc hpath => ?_⟩
    obtain ⟨i, hi, rfl⟩ := List.mem_map.mp ((List.take_sublist k _).subset hc)
    exact hplace i (List.mem_range.mp hi) hpath

/-- A source knows the path that it was read from. -/
theorem Source.path_of_load {files : FileSystem} {p : Path} {s : Source}
    (h : Source.load files p = .ok s) : s.path = p := by
  unfold Source.load at h
  split at h
  · cases h
  · exact (Source.of_ofText h).1

/-- The number of combinations of the source at a path, 0 if there is none or too many. -/
def combinationsIn (files : FileSystem) (p : Path) : Nat :=
  match Source.load files p with
  | .error _ => 0
  | .ok s => (combinationCount? s.vars).getD 0

/-- **The source at a path changes no place but those of its files**, and leaves the outline as
it is. -/
theorem generateFile_frame (o : OutputSettings) (files : FileSystem) (p : Path) :
    FileSystem.SameOutline files (generateFile o files p).files ∧
      ∀ place, (∀ i < combinationsIn files p,
          files.placeToWrite (o.pathFor p (i + 1)) ≠ .ok place) →
        (generateFile o files p).files.node? place = files.node? place := by
  unfold generateFile combinationsIn
  cases hload : Source.load files p with
  | error fault => exact ⟨.refl files, fun _ _ => rfl⟩
  | ok s =>
      have hpath : s.path = p := Source.path_of_load hload
      obtain ⟨houtline, hframe⟩ := generate_frame o files s
      rw [hpath] at hframe
      exact ⟨houtline, hframe⟩

end Fanout
