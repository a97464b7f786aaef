/-
  Fanout.Proofs.Again
  ───────────────────
  **A second run.**

  A run reads sources and writes under names that no source has.  So all
  its parts do the same in two file systems with the same sources
  (`Repeatable`): they come to the same results and make the same changes.
  In the files that a first run has left, the same changes change nothing.

    • `SameChange` — the same is written in two file systems,
    • `Repeatable.andThen` — parts that follow each other,
    • `repeatable_generateFile`, `repeatable_runSources` — the parts of a
      run,
    • `runCommand_again` — the whole run.
-/
import Fanout.Proofs.Run
import Fanout.Proofs.Settings
import Fanout.Proofs.Source.Rediscovery

namespace Fanout

open Fanout.Files Fanout.Files.FileSystem Fanout.Settings Fanout.Template

/-! ## §1. Changes. -/

/-- What happens from `a` to `b` happens from `x` to `y`: a place is left alone both times, or it
holds the same afterwards. -/
def SameChange (a b x y : FileSystem) : Prop :=
  ∀ place, b.node? place = a.node? place ∧ y.node? place = x.node? place ∨
    y.node? place = b.node? place

namespace SameChange

variable {a b c x y z : FileSystem}

theorem refl (a x : FileSystem) : SameChange a a x x := fun _ => .inl ⟨rfl, rfl⟩

/-- **The same changes, one after the other, are the same.** -/
theorem trans (h : SameChange a b x y) (h' : SameChange b c y z) : SameChange a c x z := by
  intro place
  rcases h' place with ⟨hc, hz⟩ | hsame
  · rw [hc, hz]
    exact h place
  · exact .inr hsame

/-- A file put at a place in both. -/
theorem put (a x : FileSystem) {place : Location} (h : place ≠ []) (content : Content) :
    SameChange a (a.put place (.file content)) x (x.put place (.file content)) := by
  intro other
  rw [node?_put a h, node?_put x h]
  by_cases ho : place = other
  · rw [if_pos ho, if_pos ho]
    exact .inr rfl
  · rw [if_neg ho, if_neg ho]
    exact .inl ⟨rfl, rfl⟩

/-- **What was done already changes nothing.** -/
theorem eq_of_again (h : SameChange a b b y) (place : Location) :
    y.node? place = b.node? place := by
  rcases h place with ⟨-, hsame⟩ | hsame
  · exact hsame
  · exact hsame

end SameChange

/-! ## §2. Parts of a run. -/

section Parts

variable {ε ε' α β : Type} {extension : String} {a x : FileSystem}

/-- A part of a run does in `x` as another one in `a`: it succeeds with the same, it leaves the
sources alone, and it makes the same changes. -/
structure Alike (extension : String) (a x : FileSystem) (e e' : Effect ε α) : Prop where
  /-- The one succeeds as the other does. -/
  result : ∀ v, e'.result = .ok v ↔ e.result = .ok v
  /-- The sources stay in the one. -/
  kept : SameSources extension a e.files
  /-- The sources stay in the other. -/
  kept' : SameSources extension x e'.files
  /-- The changes are the same. -/
  change : SameChange a e.files x e'.files

/-- A part of a run that does the same in all file systems with the same sources. -/
def Repeatable (extension : String) (part : FileSystem → Effect ε α) : Prop :=
  ∀ a x, a.NoLinks → SameSources extension a x → Alike extension a x (part a) (part x)

namespace Alike

variable {e e' : Effect ε α}

/-- Parts that leave all files alone. -/
theorem of_files (he : e.files = a) (he' : e'.files = x)
    (hresult : ∀ v, e'.result = .ok v ↔ e.result = .ok v) : Alike extension a x e e' := by
  refine ⟨hresult, ?_, ?_, ?_⟩
  · rw [he]
    exact .refl extension a
  · rw [he']
    exact .refl extension x
  · rw [he, he']
    exact .refl a x

/-- Failures that leave all files alone are alike, whatever is said of them. -/
theorem of_errors (he : e.files = a) (he' : e'.files = x) {cause cause' : ε}
    (hresult : e.result = .error cause) (hresult' : e'.result = .error cause') :
    Alike extension a x e e' := by
  refine .of_files he he' fun v => ?_
  rw [hresult, hresult']
  exact iff_of_false nofun nofun

theorem after (h : Alike extension a x e e') (events events' : List Log.Event) :
    Alike extension a x (e.after events) (e'.after events') :=
  ⟨h.result, h.kept, h.kept', h.change⟩

theorem mapError (h : Alike extension a x e e') (f : ε → ε') :
    Alike extension a x (e.mapError f) (e'.mapError f) := by
  have hok : ∀ (r : Except ε α) v, r.mapError f = .ok v ↔ r = .ok v := by
    intro r v
    cases r with
    | error cause => exact iff_of_false nofun nofun
    | ok w => exact ⟨fun h => congrArg Except.ok (Except.ok.inj h), fun h => by rw [h]; rfl⟩
  refine ⟨fun v => ?_, h.kept, h.kept', h.change⟩
  rw [Effect.result_mapError, Effect.result_mapError, hok, hok]
  exact h.result v

/-- A part that fails does so in both. -/
theorem exists_error (h : Alike extension a x e e') {cause : ε} (he : e.result = .error cause) :
    ∃ cause', e'.result = .error cause' := by
  cases he' : e'.result with
  | error cause' => exact ⟨cause', rfl⟩
  | ok v =>
      rw [(h.result v).mp he'] at he
      cases he

/-- **Parts that follow each other are alike** if both of them are. -/
theorem andThen {next next' : FileSystem → α → Effect ε β} (h : Alike extension a x e e')
    (hnext : ∀ v, Alike extension e.files e'.files (next e.files v) (next' e'.files v)) :
    Alike extension a x (e.andThen next) (e'.andThen next') := by
  cases hresult : e.result with
  | error cause =>
      obtain ⟨cause', hresult'⟩ := h.exists_error hresult
      rw [Effect.andThen_of_error hresult, Effect.andThen_of_error hresult']
      exact ⟨fun _ => iff_of_false nofun nofun, h.kept, h.kept', h.change⟩
  | ok v =>
      rw [Effect.andThen_of_ok hresult, Effect.andThen_of_ok ((h.result v).mpr hresult)]
      have hmore := hnext v
      exact ⟨hmore.result, h.kept.trans hmore.kept, h.kept'.trans hmore.kept',
        h.change.trans hmore.change⟩

end Alike

namespace Repeatable

variable {part : FileSystem → Effect ε α}

theorem done (v : α) :
    Repeatable extension fun files => (Effect.done files v : Effect ε α) :=
  fun _ _ _ _ => .of_files rfl rfl fun _ => Iff.rfl

/-- **Parts that follow each other can be repeated** if both of them can. -/
theorem andThen {next : FileSystem → α → Effect ε β} (h : Repeatable extension part)
    (hnext : ∀ v, Repeatable extension fun files => next files v) :
    Repeatable extension fun files => (part files).andThen next := by
  intro a x hfree hsame
  have hpart := h a x hfree hsame
  have hboth := hpart.kept.symm.trans (hsame.trans hpart.kept')
  exact hpart.andThen fun v => hnext v _ _ (hpart.kept.noLinks hfree) hboth

theorem after (h : Repeatable extension part) (events : List Log.Event) :
    Repeatable extension fun files => (part files).after events :=
  fun a x hfree hsame => (h a x hfree hsame).after events events

theorem mapError (h : Repeatable extension part) (f : ε → ε') :
    Repeatable extension fun files => (part files).mapError f :=
  fun a x hfree hsame => (h a x hfree hsame).mapError f

end Repeatable

end Parts

/-! ## §3. Generating. -/

/-- The generated files have names that no source has. -/
structure WritesBeside (o : OutputSettings) (extension : String) : Prop where
  /-- The extension leads nowhere else. -/
  noSlash : '/' ∉ o.extension.toList
  /-- No name of a generated file is that of a source. -/
  side : ∀ source index, IsSideName extension (String.ofList (o.nameFor source index))

/-- An extension that does not end in that of sources keeps the names apart. -/
theorem writesBeside_of_extension {o : OutputSettings} {extension : String} {rest : List Char}
    (hdot : o.extension.toList = '.' :: rest) (hslash : '/' ∉ o.extension.toList)
    (hother : ∀ front, o.extension.toList ≠ front ++ '.' :: extension.toList) :
    WritesBeside o extension := by
  refine ⟨hslash, fun source index => ⟨?_, fun hcut => ?_⟩⟩
  · rw [String.toList_ofList]
    exact OutputSettings.plain_nameFor hslash source index
  · rw [String.toList_ofList] at hcut
    have hpath : (o.pathFor source index).extension? = some extension.toList := by
      unfold Path.extension?
      rw [OutputSettings.fileName?_pathFor hslash, Option.bind_some]
      exact hcut
    obtain ⟨-, front, hfront⟩ :=
      (OutputSettings.extension?_pathFor hdot hslash source index _).mp hpath
    exact hother front hfront

section Generating

variable {o : OutputSettings} {extension : String}

/-- **A file is written in both or in neither.** -/
theorem write_cases {a x : FileSystem} (h : SameOutline a x) (p : Path) (content : Content) :
    (∃ place, a.placeToWrite p = .ok place ∧ x.placeToWrite p = .ok place ∧
        a.write p content = .ok (a.put place (.file content)) ∧
        x.write p content = .ok (x.put place (.file content))) ∨
      ((∃ cause, a.write p content = .error cause) ∧ ∃ cause, x.write p content = .error cause) := by
  unfold FileSystem.write
  cases ha : a.placeToWrite p with
  | ok place =>
      have hx := (placeToWrite_eq h p place).mpr ha
      rw [hx]
      exact .inl ⟨place, rfl, rfl, rfl, rfl⟩
  | error cause =>
      cases hx : x.placeToWrite p with
      | ok place =>
          rw [(placeToWrite_eq h p place).mp hx] at ha
          cases ha
      | error cause' => exact .inr ⟨⟨cause, rfl⟩, cause', rfl⟩

theorem repeatable_writeCombination (ho : WritesBeside o extension) (s : Source)
    (c : Combination) : Repeatable extension fun files => writeCombination o s files c := by
  intro a x hfree hsame
  dsimp only
  unfold writeCombination
  cases substitute s.template s.templateLine c.bindings with
  | error cause => exact .of_errors rfl rfl rfl rfl
  | ok filled =>
      dsimp only
      unfold OutputSettings.write
      rcases write_cases hsame.outline (o.pathFor s.path c.index)
          (o.contentFor s.path (resolveSpans filled c.bindings)) with
        ⟨place, ha, hx, hwrittenA, hwrittenX⟩ | ⟨⟨cause, herrorA⟩, cause', herrorX⟩
      · rw [hwrittenA, hwrittenX]
        -- The place has a name that no source has.
        have hplace := OutputSettings.place_eq_of_placeToWrite hfree.linkFree ho.noSlash ha
        have hopenA := obstacle?_of_placeToWrite ha
        have hopenX := obstacle?_of_placeToWrite hx
        have hchange := SameChange.put a x (ne_nil_of_placeToWrite ha)
          (o.contentFor s.path (resolveSpans filled c.bindings))
        rw [hplace] at hopenA hopenX hchange ⊢
        exact ⟨fun _ => Iff.rfl, sameSources_put a (ho.side s.path c.index) hopenA _,
          sameSources_put x (ho.side s.path c.index) hopenX _, hchange⟩
      · rw [herrorA, herrorX]
        exact .of_errors rfl rfl rfl rfl

theorem repeatable_writeAll (ho : WritesBeside o extension) (s : Source) (cs : List Combination) :
    Repeatable extension fun files => writeAll o s files cs := by
  induction cs with
  | nil => exact .done []
  | cons c cs ih =>
      exact (repeatable_writeCombination ho s c).andThen fun path =>
        ih.andThen fun paths => .done (path :: paths)

theorem repeatable_generate (ho : WritesBeside o extension) (s : Source) :
    Repeatable extension fun files => generate o files s := by
  unfold generate
  dsimp only
  cases combinationCount? s.vars with
  | none => exact fun _ _ _ _ => .of_errors rfl rfl rfl rfl
  | some n =>
      dsimp only
      cases resolveAll s.derived (combinations s.vars) with
      | error cause => exact fun _ _ _ _ => .of_errors rfl rfl rfl rfl
      | ok cs =>
          exact ((repeatable_writeAll ho s cs).after _).andThen fun written _ _ _ _ =>
            .of_files rfl rfl fun _ => Iff.rfl

/-- **A source is generated alike**, be it read or not. -/
theorem repeatable_generateFile (ho : WritesBeside o extension) {p : Path}
    (hp : isSourcePath extension p = true) :
    Repeatable extension fun files => generateFile o files p := by
  intro a x hfree hsame
  dsimp only
  unfold generateFile
  cases ha : Source.load a p with
  | ok s =>
      rw [hsame.load hfree.linkFree hp ha]
      exact ((repeatable_generate ho s) a x hfree hsame).after _ _
  | error cause =>
      cases hx : Source.load x p with
      | ok s =>
          rw [hsame.symm.load (hsame.noLinks hfree).linkFree hp hx] at ha
          cases ha
      | error cause' => exact .of_errors rfl rfl rfl rfl

theorem repeatable_runSources (ho : WritesBeside o extension) (ps : List Path) :
    (∀ p ∈ ps, isSourcePath extension p = true) → ∀ written,
      Repeatable extension fun files => runSources o files written ps := by
  induction ps with
  | nil => exact fun _ written => .done written
  | cons p ps ih =>
      intro hps written
      have hfirst := (repeatable_generateFile ho (hps p List.mem_cons_self)).mapError
        (RunFault.source p)
      exact hfirst.andThen fun report => ih (fun q hq => hps q (List.mem_cons_of_mem p hq)) _

end Generating

/-! ## §4. The whole run. -/

theorem map_unit_eq_ok_iff {ε α : Type} {r : Except ε α} {u : Unit} :
    (r.map fun _ => ()) = .ok u ↔ ∃ v, r = .ok v := by
  cases r with
  | error cause => exact iff_of_false (fun h => by cases h) (fun ⟨v, h⟩ => by cases h)
  | ok v => exact iff_of_true rfl ⟨v, rfl⟩

/-- **The files that a run over arguments has left make the same run change nothing.** -/
theorem runArguments_again {s : Settings} (ho : WritesBeside s.output s.sourceExtension)
    {files : FileSystem} (hfree : files.NoLinks) {args : List Path}
    (hargs : ∀ arg ∈ args, files.isDirectory arg = true ∨
      isSourcePath s.sourceExtension arg = true) :
    let first := runArguments s files args
    let second := runArguments s first.files args
    (∀ u, second.result = .ok u ↔ first.result = .ok u) ∧
      ∀ place, second.files.node? place = first.files.node? place := by
  intro first second
  by_cases hbad : ∃ arg ∈ args, Unusable files arg
  · -- Nothing was written, so it is the same run.
    obtain ⟨arg, hmem, hunusable⟩ := hbad
    have hfiles : first.files = files := (runArguments_of_unusable s files hmem hunusable).1
    have hsecond : second = first := congrArg (fun fs => runArguments s fs args) hfiles
    rw [hsecond]
    exact ⟨fun _ => Iff.rfl, fun _ => rfl⟩
  · have husable : ∀ arg ∈ args, ¬ Unusable files arg := fun arg hmem h => hbad ⟨arg, hmem, h⟩
    have hpaths : ∀ p ∈ args.flatMap (sourcesFound files s.sourceExtension),
        isSourcePath s.sourceExtension p = true := by
      intro p hp
      obtain ⟨arg, hmem, hfound⟩ := List.mem_flatMap.mp hp
      exact isSourcePath_of_mem_sourcesFound (hargs arg hmem) hfound
    have hrepeat := repeatable_runSources ho _ hpaths 0
    obtain ⟨hfiles, hresult⟩ := runArguments_of_usable s files husable
    have hkept : SameSources s.sourceExtension files first.files := by
      rw [hfiles]
      exact (hrepeat files files hfree (.refl _ files)).kept
    -- The second run finds the same sources.
    have husable' : ∀ arg ∈ args, ¬ Unusable first.files arg := by
      intro arg hmem hunusable
      refine husable arg hmem (hkept.symm.unusable (hkept.noLinks hfree) ?_ hunusable)
      rw [hkept.isDirectory_eq]
      exact hargs arg hmem
    have hfound : args.flatMap (sourcesFound first.files s.sourceExtension) =
        args.flatMap (sourcesFound files s.sourceExtension) :=
      List.flatMap_congr fun arg _ => hkept.sourcesFound_eq hfree arg
    obtain ⟨hfiles', hresult'⟩ := runArguments_of_usable s first.files husable'
    rw [hfound] at hfiles' hresult'
    have halike := hrepeat files first.files hfree hkept
    have hchange := halike.change
    rw [← hfiles, ← hfiles'] at hchange
    refine ⟨fun u => ?_, hchange.eq_of_again⟩
    rw [hresult, hresult', map_unit_eq_ok_iff, map_unit_eq_ok_iff]
    exact exists_congr halike.result

/-- No file that is generated under the standard settings is named as a source. -/
theorem writesBeside_standard : WritesBeside Settings.standard.output "crankgen" := by
  have hdot : Settings.standard.output.extension.toList = '.' :: "crank".toList := rfl
  refine writesBeside_of_extension hdot (by decide) fun front h => ?_
  have hlength := congrArg List.length h
  rw [List.length_append] at hlength
  have htoo : ".crank".toList.length < ('.' :: "crankgen".toList).length := by decide
  exact absurd hlength (Nat.ne_of_lt (Nat.lt_add_left _ htoo))

/-- A run without settings is that of its arguments under the standard ones, which have no file
for the log. -/
theorem generateAll_standard (env : Environment) (files : FileSystem) (stamp : String)
    (sources : List Path) :
    (generateAll env files stamp none sources).files =
        (runArguments Settings.standard files sources).files ∧
      ((generateAll env files stamp none sources).code = 0 ↔
        (runArguments Settings.standard files sources).result = .ok ()) ∧
      ((generateAll env files stamp none sources).code = 0 ∨
        (generateAll env files stamp none sources).code = 1) := by
  have hload : Settings.load env files none = .ok Settings.standard := rfl
  obtain ⟨hfiles, herror, hok⟩ := generateAll_eq hload rfl stamp sources
  have hone : (1 : UInt32) ≠ 0 := by decide
  cases hresult : (runArguments Settings.standard files sources).result with
  | error fault =>
      have hcode := herror ⟨fault, hresult⟩
      rw [hcode]
      exact ⟨hfiles, iff_of_false hone (fun h => by cases h), .inr rfl⟩
  | ok u =>
      have hcode := hok hresult
      rw [hcode]
      exact ⟨hfiles, iff_of_true rfl rfl, .inl rfl⟩

/-- **Running the command again changes nothing.**  The file system has no links, and every
argument is a directory or the path of a source; no settings are given.  However the first run
ends, the second one has the same exit code and leaves every place as the first one left it. -/
theorem runCommand_again {env : Environment} {files : FileSystem} (hfree : files.NoLinks)
    {args : List String}
    (hargs : ∀ settings sources, Request.ofArguments args = .run settings sources →
      settings = none ∧ ∀ p ∈ sources, files.isDirectory p = true ∨
        isSourcePath "crankgen" p = true) (stamp stamp' : String) :
    let first := runCommand env files stamp args
    let second := runCommand env first.files stamp' args
    second.code = first.code ∧ ∀ place, second.files.node? place = first.files.node? place := by
  intro first second
  -- Whatever is not a run leaves the files alone and ends as it does everywhere.
  have hstays : ∀ code output diagnostics,
      (∀ fs st, runCommand env fs st args = ⟨fs, code, output, diagnostics⟩) →
        second.code = first.code ∧ ∀ place, second.files.node? place = first.files.node? place := by
    intro code output diagnostics hrun
    have hfirst : first = ⟨files, code, output, diagnostics⟩ := hrun files stamp
    have hsecond : second = ⟨first.files, code, output, diagnostics⟩ := hrun first.files stamp'
    rw [hsecond, hfirst]
    exact ⟨rfl, fun _ => rfl⟩
  cases hrequest : Request.ofArguments args with
  | help => exact hstays 0 helpText "" fun fs st => by rw [runCommand, hrequest]
  | version => exact hstays 0 versionText "" fun fs st => by rw [runCommand, hrequest]
  | usage => exact hstays 2 "" usageText fun fs st => by rw [runCommand, hrequest]
  | run settings sources =>
      obtain ⟨rfl, hsources⟩ := hargs settings sources hrequest
      have hrun : ∀ fs st, runCommand env fs st args = generateAll env fs st none sources :=
        fun fs st => by rw [runCommand, hrequest]
      obtain ⟨hfiles, hzero, hcode⟩ := generateAll_standard env files stamp sources
      obtain ⟨hfiles', hzero', hcode'⟩ := generateAll_standard env first.files stamp' sources
      rw [← hrun] at hfiles hzero hcode hfiles' hzero' hcode'
      obtain ⟨hresult, hplaces⟩ := runArguments_again writesBeside_standard hfree hsources
      rw [← hfiles] at hresult hplaces
      rw [← hfiles'] at hplaces
      refine ⟨?_, hplaces⟩
      have hboth : second.code = 0 ↔ first.code = 0 := hzero'.trans ((hresult ()).trans hzero.symm)
      -- There are two exit codes.
      rcases hcode with hcode | hcode
      · exact (hboth.mpr hcode).trans hcode.symm
      · rcases hcode' with hcode' | hcode'
        · exact hcode'.trans (hboth.mp hcode').symm
        · exact hcode'.trans hcode.symm

/-- A directory with a source of two combinations; a directory stands in the way of the second
file. -/
def blockedShelf : FileSystem :=
  ⟨[(["work"], .directory),
    (["work", "a.crankgen"], .file (.text "VAR n = 1, 2\nBEGIN_TEMPLATE\n$n\n")),
    (["work", "a_2_gen.crank"], .directory)], ["work"]⟩

/-- A second run stops there as well and changes nothing more. -/
theorem runCommand_again_blocked :
    blockedShelf.NoLinks
      ∧ Request.ofArguments ["a.crankgen"] = .run none [⟨"a.crankgen"⟩]
      ∧ isSourcePath "crankgen" ⟨"a.crankgen"⟩ = true
      ∧ (runCommand [] (runCommand [] blockedShelf "" ["a.crankgen"]).files "" ["a.crankgen"]).code
          = (runCommand [] blockedShelf "" ["a.crankgen"]).code
      ∧ ∀ place,
          (runCommand [] (runCommand [] blockedShelf "" ["a.crankgen"]).files ""
              ["a.crankgen"]).files.node? place =
            (runCommand [] blockedShelf "" ["a.crankgen"]).files.node? place := by
  have hfree : blockedShelf.NoLinks := by
    have hnone : ∀ e ∈ blockedShelf.nodes, (e.2 matches .link _) = false := by decide
    rintro e he target hlink
    have hfalse := hnone e he
    rw [hlink] at hfalse
    cases hfalse
  have hrequest : Request.ofArguments ["a.crankgen"] = .run none [⟨"a.crankgen"⟩] := rfl
  have hsource : isSourcePath "crankgen" ⟨"a.crankgen"⟩ = true := by decide
  refine ⟨hfree, hrequest, hsource, runCommand_again hfree (fun settings sources h => ?_) "" ""⟩
  obtain ⟨rfl, rfl⟩ := Request.run.inj (hrequest.symm.trans h)
  refine ⟨rfl, fun p hp => .inr ?_⟩
  rw [List.mem_singleton.mp hp]
  exact hsource

end Fanout
