/-
  Fanout.Proofs.Run
  ─────────────────
  **A run of the command stops at its first failure.**

  Settings and arguments are looked at before the first write, so a failure
  among them leaves all files as they are.  Then the sources are done one
  after the other, each in the files that those before it have left:

    • `afterSources` — the files after some sources,
    • `runSources_spec` — all sources up to the first that fails are done,
      and none behind it,
    • `afterSources_frame` — places that no path of theirs leads to keep
      what they hold,
    • `runCommand_spec` — the whole run.
-/
import Fanout.Proofs.Generate
import Fanout.Proofs.Source.Search
import Fanout.Run

namespace Fanout

open Fanout.Files Fanout.Settings

/-! ## §1. Sources, one after the other. -/

/-- The files after sources that are done one after the other. -/
def afterSources (o : OutputSettings) (files : FileSystem) (ps : List Path) : FileSystem :=
  ps.foldl (fun fs p => (generateFile o fs p).files) files

theorem afterSources_cons (o : OutputSettings) (files : FileSystem) (p : Path) (ps : List Path) :
    afterSources o files (p :: ps) = afterSources o (generateFile o files p).files ps := rfl

/-- **All sources are done up to the first that fails.** -/
theorem runSources_spec (o : OutputSettings) (ps : List Path) :
    ∀ (files : FileSystem) (written : Nat),
      ∃ k ≤ ps.length,
        (∀ j < k, ∀ p, ps[j]? = some p → ∃ report,
          (generateFile o (afterSources o files (ps.take j)) p).result = .ok report) ∧
        (k = ps.length ∧ (∃ total, (runSources o files written ps).result = .ok total) ∧
            (runSources o files written ps).files = afterSources o files ps ∨
          ∃ p fault, ps[k]? = some p ∧
            (generateFile o (afterSources o files (ps.take k)) p).result = .error fault ∧
            (runSources o files written ps).result = .error (.source p fault) ∧
            (runSources o files written ps).files =
              (generateFile o (afterSources o files (ps.take k)) p).files) := by
  -- The files are those after the sources done so far; the number of files is not looked at.
  induction ps with
  | nil =>
      intro files written
      refine ⟨0, Nat.le_refl 0, ?_, .inl ⟨rfl, ⟨written, rfl⟩, rfl⟩⟩
      intro j hj
      exact absurd hj (Nat.not_lt_zero j)
  | cons p ps ih =>
      intro files written
      rw [runSources]
      cases hresult : (generateFile o files p).result with
      | error fault =>
          have hfirst : ((generateFile o files p).mapError (RunFault.source p)).result =
              .error (.source p fault) := by
            rw [Effect.result_mapError, hresult]
            rfl
          rw [Effect.andThen_of_error hfirst]
          refine ⟨0, Nat.zero_le _, ?_, .inr ⟨p, fault, rfl, hresult, rfl, rfl⟩⟩
          intro j hj
          exact absurd hj (Nat.not_lt_zero j)
      | ok report =>
          have hfirst : ((generateFile o files p).mapError (RunFault.source p)).result =
              .ok report := by
            rw [Effect.result_mapError, hresult]
            rfl
          rw [Effect.andThen_of_ok hfirst, Effect.files_after, Effect.result_after]
          obtain ⟨k, hk, hbefore, hend⟩ :=
            ih (generateFile o files p).files (written + report.written.length)
          refine ⟨k + 1, Nat.succ_le_succ hk, ?_, ?_⟩
          · intro j hj q hq
            cases j with
            | zero =>
                obtain rfl : p = q := Option.some.inj hq
                exact ⟨report, hresult⟩
            | succ j => exact hbefore j (Nat.lt_of_succ_lt_succ hj) q hq
          · rcases hend with ⟨hlength, htotal, hfiles⟩ | ⟨q, fault, hq, herror, hfault, hfiles⟩
            · exact .inl ⟨congrArg Nat.succ hlength, htotal, hfiles⟩
            · exact .inr ⟨q, fault, hq, herror, hfault, hfiles⟩

/-- **Places to which no path of the sources leads keep what they hold**, and the outline stays
as it is. -/
theorem afterSources_frame (o : OutputSettings) (ps : List Path) :
    ∀ files : FileSystem,
      FileSystem.SameOutline files (afterSources o files ps) ∧
        ∀ place, (∀ (j : Nat) (p : Path), ps[j]? = some p →
            ∀ i < combinationsIn (afterSources o files (ps.take j)) p,
              files.placeToWrite (o.pathFor p (i + 1)) ≠ .ok place) →
          (afterSources o files ps).node? place = files.node? place := by
  induction ps with
  | nil => intro files; exact ⟨.refl files, fun _ _ => rfl⟩
  | cons p ps ih =>
      intro files
      obtain ⟨houtline, hframe⟩ := generateFile_frame o files p
      obtain ⟨hmore, hmoreFrame⟩ := ih (generateFile o files p).files
      refine ⟨houtline.trans hmore, ?_⟩
      intro place hplace
      have hfirst : (generateFile o files p).files.node? place = files.node? place :=
        hframe place (hplace 0 p rfl)
      rw [afterSources_cons, ← hfirst]
      apply hmoreFrame place
      intro j q hq i hi hpath
      -- The first source has turned no path away from where it led.
      have hbefore := (FileSystem.placeToWrite_eq houtline _ place).mp hpath
      exact hplace (j + 1) q hq i hi hbefore

/-! ## §2. The whole run. -/

/-- The files after the first `k` sources of a list and whatever the next one does. -/
theorem afterSources_take_succ (o : OutputSettings) (files : FileSystem) {ps : List Path} {k : Nat}
    {p : Path} (hp : ps[k]? = some p) :
    afterSources o files (ps.take (k + 1)) =
      (generateFile o (afterSources o files (ps.take k)) p).files := by
  unfold afterSources
  rw [List.take_add_one, hp, Option.toList_some, List.foldl_append]
  rfl

/-- Arguments that cannot all be used end a run before anything is written. -/
theorem runArguments_of_unusable (s : Settings) (files : FileSystem) {args : List Path} {arg : Path}
    (hmem : arg ∈ args) (h : Unusable files arg) :
    (runArguments s files args).files = files ∧
      ∃ fault, (runArguments s files args).result = .error fault := by
  obtain ⟨fault, herror⟩ := expandSources_error files s.sourceExtension h args hmem
  unfold runArguments
  rw [Effect.andThen_of_error (x := .discovery fault)]
  · exact ⟨files_expandSources files s.sourceExtension args, _, rfl⟩
  · rw [Effect.result_after, Effect.result_mapError, herror]
    rfl

/-- Arguments that can be used are done as the list of their sources. -/
theorem runArguments_of_usable (s : Settings) (files : FileSystem) {args : List Path}
    (h : ∀ arg ∈ args, ¬ Unusable files arg) :
    (runArguments s files args).files =
        (runSources s.output files 0 (args.flatMap (sourcesFound files s.sourceExtension))).files ∧
      (runArguments s files args).result =
        (runSources s.output files 0
          (args.flatMap (sourcesFound files s.sourceExtension))).result.map fun _ => () := by
  have hexpand := expandSources_ok files s.sourceExtension args h
  unfold runArguments
  rw [Effect.andThen_of_ok (a := args.flatMap (sourcesFound files s.sourceExtension))]
  · simp only [Effect.files_after, Effect.result_after, Effect.files_mapError,
      files_expandSources]
    refine ⟨Effect.files_andThen fun _ _ => rfl, ?_⟩
    cases hrun : (runSources s.output files 0
        (args.flatMap (sourcesFound files s.sourceExtension))).result with
    | error fault =>
        rw [Effect.andThen_of_error hrun]
        rfl
    | ok total =>
        rw [Effect.andThen_of_ok hrun]
        rfl
  · rw [Effect.result_after, Effect.result_mapError, hexpand]
    rfl

/-- Once the log is started, a run is that of its arguments. -/
theorem generateAll_of_startLog {env : Environment} {files started : FileSystem}
    {settings : Option Path} {s : Settings} (hload : Settings.load env files settings = .ok s)
    (hstart : startLog files s.log = .ok started) (stamp : String) (args : List Path) :
    generateAll env files stamp settings args =
      finish env s.log stamp (runArguments s started args) := by
  unfold generateAll
  rw [hload]
  dsimp only
  rw [hstart]

/-- The exit code 0 tells that a run has come to a result. -/
theorem code_finish_eq_zero_iff (env : Environment) (log : LogSettings) (stamp : String)
    (e : Effect RunFault Unit) : (finish env log stamp e).code = 0 ↔ e.result = .ok () := by
  unfold finish
  cases e.result with
  | error fault =>
      have hone : (1 : UInt32) ≠ 0 := by decide
      exact ⟨fun h => absurd h hone, fun h => (by cases h)⟩
  | ok u => exact ⟨fun _ => rfl, fun _ => rfl⟩

/-- A run ends with the files that the log leaves. -/
theorem files_finish (env : Environment) (log : LogSettings) (stamp : String)
    (e : Effect RunFault Unit) :
    (finish env log stamp e).files = endLog env log stamp e.events e.files := by
  unfold finish
  cases e.result with
  | error fault => rfl
  | ok u => rfl

/-- Without a file for the log a run is that of its arguments. -/
theorem generateAll_eq {env : Environment} {files : FileSystem} {settings : Option Path}
    {s : Settings} (hload : Settings.load env files settings = .ok s) (hlog : s.log.file = none)
    (stamp : String) (args : List Path) :
    (generateAll env files stamp settings args).files = (runArguments s files args).files ∧
      ((∃ fault, (runArguments s files args).result = .error fault) →
        (generateAll env files stamp settings args).code = 1) ∧
      ((runArguments s files args).result = .ok () →
        (generateAll env files stamp settings args).code = 0) := by
  have hstart : startLog files s.log = .ok files := by
    unfold startLog
    rw [hlog]
  have hend : ∀ events after, endLog env s.log stamp events after = after := by
    intro events after
    unfold endLog
    rw [hlog]
  rw [generateAll_of_startLog hload hstart, files_finish, hend, code_finish_eq_zero_iff]
  refine ⟨rfl, ?_, fun h => h⟩
  rintro ⟨fault, hfault⟩
  unfold finish
  rw [hfault]
  rfl

/-- **A whole run that makes no file for its log.**

If there are no settings, or if some argument cannot be used, the exit code is 1 and no file is
touched.  Otherwise the sources are those that the arguments stand for before anything is
written.  They are done in order, each in the files that those before it have left: either all
succeed and the exit code is 0, or the exit code is 1 and the files are as the first failing
source leaves them.  A place to which no path of a file of a source that was begun leads keeps
what it holds. -/
theorem runCommand_spec {env : Environment} {files : FileSystem} {args : List String}
    {settings : Option Path} {sources : List Path}
    (hrequest : Request.ofArguments args = .run settings sources)
    (hlog : ∀ s, Settings.load env files settings = .ok s → s.log.file = none) (stamp : String) :
    (∀ fault, Settings.load env files settings = .error fault →
      (runCommand env files stamp args).code = 1 ∧
        (runCommand env files stamp args).files = files)
    ∧ ∀ s, Settings.load env files settings = .ok s →
      ((∃ arg ∈ sources, Unusable files arg) →
        (runCommand env files stamp args).code = 1 ∧
          (runCommand env files stamp args).files = files) ∧
      ((∀ arg ∈ sources, ¬ Unusable files arg) →
        let found := sources.flatMap (sourcesFound files s.sourceExtension)
        let before := fun j => afterSources s.output files (found.take j)
        ∃ k ≤ found.length,
          (∀ j < k, ∀ p, found[j]? = some p → ∃ report,
            (generateFile s.output (before j) p).result = .ok report) ∧
          (k = found.length ∧ (runCommand env files stamp args).code = 0 ∧
              (runCommand env files stamp args).files = before k ∨
            ∃ p fault, found[k]? = some p ∧
              (generateFile s.output (before k) p).result = .error fault ∧
              (runCommand env files stamp args).code = 1 ∧
              (runCommand env files stamp args).files =
                (generateFile s.output (before k) p).files) ∧
          ∀ place, (∀ j ≤ k, ∀ p, found[j]? = some p → ∀ i < combinationsIn (before j) p,
              files.placeToWrite (s.output.pathFor p (i + 1)) ≠ .ok place) →
            (runCommand env files stamp args).files.node? place = files.node? place) := by
  have hrun : runCommand env files stamp args = generateAll env files stamp settings sources := by
    unfold runCommand
    rw [hrequest]
  rw [hrun]
  refine ⟨fun fault hload => ?_, fun s hload => ⟨?_, fun husable => ?_⟩⟩
  · -- No settings.
    unfold generateAll
    rw [hload]
    exact ⟨rfl, rfl⟩
  · -- An argument that cannot be used.
    rintro ⟨arg, hmem, hunusable⟩
    obtain ⟨hfiles, hcode, -⟩ := generateAll_eq hload (hlog s hload) stamp sources
    obtain ⟨hkept, hfault⟩ := runArguments_of_unusable s files hmem hunusable
    exact ⟨hcode hfault, hfiles.trans hkept⟩
  · -- Sources, one after the other.
    intro found before
    obtain ⟨hfiles, herrorCode, hokCode⟩ := generateAll_eq hload (hlog s hload) stamp sources
    obtain ⟨hargs, hresult⟩ := runArguments_of_usable s files husable
    rw [hargs] at hfiles
    obtain ⟨k, hk, hdone, hend⟩ := runSources_spec s.output found files 0
    -- Up to the last source that was begun the frames of all sources hold.
    have hframe : ∀ place, (∀ j ≤ k, ∀ p, found[j]? = some p → ∀ i < combinationsIn (before j) p,
        files.placeToWrite (s.output.pathFor p (i + 1)) ≠ .ok place) →
        (afterSources s.output files (found.take (k + 1))).node? place = files.node? place := by
      intro place hplace
      refine (afterSources_frame s.output _ files).2 place fun j p hp i hi => ?_
      have hj : j < k + 1 := by
        have hlt := (List.getElem?_eq_some_iff.mp hp).1
        rw [List.length_take] at hlt
        omega
      rw [List.getElem?_take_of_lt hj] at hp
      rw [List.take_take, Nat.min_eq_left (Nat.le_of_lt hj)] at hi
      exact hplace j (Nat.le_of_lt_succ hj) p hp i hi
    refine ⟨k, hk, hdone, ?_, fun place hplace => ?_⟩
    · rcases hend with ⟨hlength, ⟨total, htotal⟩, hleft⟩ | ⟨p, fault, hp, herror, hfault, hleft⟩
      · refine .inl ⟨hlength, hokCode ?_, ?_⟩
        · rw [hresult, htotal]
          rfl
        · rw [hfiles, hleft]
          simp only [before]
          rw [hlength, List.take_length]
      · refine .inr ⟨p, fault, hp, herror, herrorCode ⟨.source p fault, ?_⟩, hfiles.trans hleft⟩
        rw [hresult, hfault]
        rfl
    · -- The files at the end are those after the sources that were begun.
      rw [← hframe place hplace, hfiles]
      rcases hend with ⟨hlength, -, hleft⟩ | ⟨p, fault, hp, -, -, hleft⟩
      · rw [hleft, List.take_of_length_le (by omega)]
      · rw [hleft, afterSources_take_succ s.output files hp]

/-- A directory with one source. -/
def shelf : FileSystem :=
  ⟨[(["work"], .directory),
    (["work", "a.crankgen"], .file (.text "BEGIN_TEMPLATE\nx\n"))], ["work"]⟩

/-- A missing argument behind the source keeps the source from being done. -/
theorem runCommand_missing :
    Request.ofArguments ["a.crankgen", "missing.crankgen"] =
        .run none [⟨"a.crankgen"⟩, ⟨"missing.crankgen"⟩] ∧
      (∀ s, Settings.load [] shelf none = .ok s → s.log.file = none) ∧
      Unusable shelf ⟨"missing.crankgen"⟩ ∧
      (runCommand [] shelf "" ["a.crankgen", "missing.crankgen"]).code = 1 ∧
      (runCommand [] shelf "" ["a.crankgen", "missing.crankgen"]).files = shelf := by
  have hrequest : Request.ofArguments ["a.crankgen", "missing.crankgen"] =
      .run none [⟨"a.crankgen"⟩, ⟨"missing.crankgen"⟩] := rfl
  have hlog : ∀ s, Settings.load [] shelf none = .ok s → s.log.file = none := by
    intro s hload
    cases hload
    rfl
  have hwalk : shelf.walk true FileSystem.maxLinks ["work"] [.named "missing.crankgen"] =
      .ok (.free ["work", "missing.crankgen"]) := by
    rw [FileSystem.walk, if_neg (by decide)]
    rfl
  have hmissing : Unusable shelf ⟨"missing.crankgen"⟩ := by
    have hresolve : shelf.resolveFrom true shelf.current ⟨"missing.crankgen"⟩ =
        shelf.walk true FileSystem.maxLinks ["work"] [.named "missing.crankgen"] := rfl
    refine .inl ?_
    unfold FileSystem.hasNode FileSystem.find
    rw [hresolve, hwalk]
  have hrun := ((runCommand_spec hrequest hlog "").2 Settings.standard rfl).1
    ⟨⟨"missing.crankgen"⟩, by simp, hmissing⟩
  exact ⟨hrequest, hlog, hmissing, hrun⟩

end Fanout
