/-
  Fanout.Proofs.Settings
  ──────────────────────
  **Extensions of loaded settings.**

  Loading looks at the whole of the extension of generated files, a search
  for sources only at what stands behind the last dot of a name.  The two
  agree as long as the extension has one dot:

    • `extension_of_load` — what loading guarantees of the extension,
    • `extension?_pathFor` — what stands behind the last dot of the name of a
      generated file stands behind the last dot of the extension,
    • `isSourcePath_pathFor_iff` — when a generated file is taken for a
      source.
-/
import Fanout.Proofs.Output
import Fanout.Settings.Load
import Fanout.Source.Search

namespace Fanout

open Fanout.Files Fanout.Text

/-! ## §1. What loading guarantees. -/

namespace Settings

/-- An extension for generated files beside the extension of sources, as loading lets it
through. -/
structure Distinct (extension sourceExtension : List Char) : Prop where
  /-- It is a dot with something behind it. -/
  dotted : ∃ c rest, extension = '.' :: c :: rest
  /-- There is no slash in it. -/
  noSlash : '/' ∉ extension
  /-- It is not the extension of sources with a dot. -/
  ne_source : extension ≠ '.' :: sourceExtension

/-- An extension without a fault. -/
theorem distinct_of_extensionFault? {extension sourceExtension : String}
    (h : extensionFault? extension sourceExtension = none) :
    Distinct extension.toList sourceExtension.toList := by
  unfold extensionFault? at h
  split at h
  · rename_i c rest hchars
    split at h
    · cases h
    · rename_i hseparator
      split at h
      · cases h
      · rename_i hsource
        rw [hchars]
        refine ⟨⟨c, rest, rfl⟩, fun hmem => ?_, fun heq => hsource (List.cons.inj heq).2⟩
        refine hseparator (List.any_eq_true.mpr ⟨'/', ?_, rfl⟩)
        rcases List.mem_cons.mp hmem with hdot | hmem
        · cases hdot
        · exact hmem
  · cases h

/-- Expanding the path of the log changes neither extension. -/
theorem extension_of_expandLog {env : Environment} {s t : Settings}
    (h : expandLog env s = .ok t) :
    t.output = s.output ∧ t.sourceExtension = s.sourceExtension := by
  unfold expandLog at h
  split at h
  · cases h
    exact ⟨rfl, rfl⟩
  · split at h
    · cases h
    · cases h
      exact ⟨rfl, rfl⟩

/-- **Loaded settings keep the files that are generated and sources apart by their whole
extensions.** -/
theorem extension_of_load {env : Environment} {files : FileSystem} {path : Option Path}
    {s : Settings} (h : load env files path = .ok s) :
    Distinct s.output.extension.toList s.sourceExtension.toList := by
  unfold load at h
  split at h
  · -- The settings that hold without a file.
    cases h
    exact distinct_of_extensionFault? rfl
  · split at h
    · split at h
      · cases h
      · unfold ofText at h
        split at h
        · cases h
        · rename_i number read _
          unfold check at h
          split at h
          · cases h
          · split at h
            · cases h
            · rename_i hfault
              obtain ⟨houtput, hsource⟩ := extension_of_expandLog h
              rw [houtput, hsource]
              exact distinct_of_extensionFault? hfault
    · cases h

/-- The settings in a file are those that its text holds. -/
theorem load_of_find (env : Environment) {files : FileSystem} {path : Path} {place : Location}
    {text : String} (h : files.find true path = .ok (place, .file (.text text))) :
    load env files (some path) = ofText env path text := by
  unfold load FileSystem.hasNode FileSystem.readText
  dsimp only
  rw [h]
  rfl

end Settings

/-! ## §2. Extensions of generated files. -/

namespace OutputSettings

variable {o : OutputSettings}

/-- The last name of the path of a generated file. -/
theorem fileName?_pathFor (hext : '/' ∉ o.extension.toList) (source : Path) (index : Nat) :
    (o.pathFor source index).fileName? = some (o.nameFor source index) := by
  rw [pathFor_eq_join]
  exact Path.fileName?_join _ (plain_nameFor hext source index)

/-- The name of a generated file without the extension from the settings. -/
def baseFor (source : Path) (index : Nat) : List Char :=
  source.stem ++ '_' :: Number.digitsOf index ++ "_gen".toList

theorem nameFor_eq (o : OutputSettings) (source : Path) (index : Nat) :
    o.nameFor source index = baseFor source index ++ o.extension.toList := rfl

theorem baseFor_ne_nil (source : Path) (index : Nat) : baseFor source index ≠ [] := by
  unfold baseFor
  simp

/-- **A generated file carries an extension if and only if that of the settings ends in it.** -/
theorem extension?_pathFor {rest : List Char} (hdot : o.extension.toList = '.' :: rest)
    (hext : '/' ∉ o.extension.toList) (source : Path) (index : Nat) (behind : List Char) :
    (o.pathFor source index).extension? = some behind ↔
      '.' ∉ behind ∧ ∃ front, o.extension.toList = front ++ '.' :: behind := by
  unfold Path.extension?
  rw [fileName?_pathFor hext, Option.bind_some, nameFor_eq, Path.cutName_snd_eq_some_iff]
  constructor
  · rintro ⟨hnone, front, -, hname⟩
    refine ⟨hnone, ?_⟩
    rcases List.append_eq_append_iff.mp hname with ⟨front, -, hfront⟩ | ⟨more, -, hmore⟩
    · exact ⟨front, hfront⟩
    · cases more with
      | nil => exact ⟨[], hmore.symm⟩
      | cons c more =>
          -- The dot of the extension would stand behind the last one.
          refine absurd ?_ hnone
          rw [(List.cons.inj hmore).2, hdot]
          exact List.mem_append_right more List.mem_cons_self
  · rintro ⟨hnone, front, hfront⟩
    refine ⟨hnone, baseFor source index ++ front, ?_, by rw [hfront, List.append_assoc]⟩
    exact List.append_ne_nil_of_left_ne_nil (baseFor_ne_nil source index) front

end OutputSettings

/-! ## §3. Generated files and sources. -/

/-- **When a generated file is taken for a source.**  Under loaded settings that is so if and
only if the extension of generated files has more than its first dot and ends in a dot and the
extension of sources, which has no dot itself.  With the first dot alone no generated file is
ever taken for a source. -/
theorem isSourcePath_pathFor_iff {env : Settings.Environment} {files : FileSystem}
    {path : Option Path} {s : Settings} (hload : Settings.load env files path = .ok s)
    (source : Path) (index : Nat) :
    (isSourcePath s.sourceExtension (s.output.pathFor source index) = true ↔
      '.' ∉ s.sourceExtension.toList ∧ ∃ front, front ≠ [] ∧
        s.output.extension.toList = front ++ '.' :: s.sourceExtension.toList) ∧
    (s.output.extension.toList.count '.' = 1 →
      isSourcePath s.sourceExtension (s.output.pathFor source index) = false) := by
  have hdistinct := Settings.extension_of_load hload
  obtain ⟨c, rest, hdotted⟩ := hdistinct.dotted
  have hiff : isSourcePath s.sourceExtension (s.output.pathFor source index) = true ↔
      '.' ∉ s.sourceExtension.toList ∧ ∃ front, front ≠ [] ∧
        s.output.extension.toList = front ++ '.' :: s.sourceExtension.toList := by
    unfold isSourcePath
    rw [beq_iff_eq, OutputSettings.extension?_pathFor hdotted hdistinct.noSlash]
    constructor
    · rintro ⟨hnone, front, hfront⟩
      refine ⟨hnone, front, ?_, hfront⟩
      -- Loading refuses the extension of sources itself.
      rintro rfl
      exact hdistinct.ne_source hfront
    · rintro ⟨hnone, front, -, hfront⟩
      exact ⟨hnone, front, hfront⟩
  refine ⟨hiff, fun hone => ?_⟩
  rw [Bool.eq_false_iff]
  intro hsource
  obtain ⟨-, front, hne, hfront⟩ := hiff.mp hsource
  -- What stands before the last dot begins with the first one.
  cases front with
  | nil => exact hne rfl
  | cons d front =>
      obtain rfl : '.' = d := (List.cons.inj (hdotted.symm.trans hfront)).1
      rw [hfront, List.cons_append, List.count_cons_self, List.count_append,
        List.count_cons_self] at hone
      omega

/-- A directory with settings whose extension for generated files has two dots. -/
def desk : FileSystem :=
  ⟨[(["work"], .directory),
    (["work", "crankgen.toml"],
      .file (.text "version = 1\n[output]\nextension = \".x.crankgen\"\n"))], ["work"]⟩

/-- The settings that it holds. -/
def deskSettings : Settings :=
  ⟨some ⟨"crankgen.toml"⟩, ⟨".x.crankgen", ";"⟩, "crankgen", ⟨"warn", none, none⟩⟩

/-- They are accepted, and the files generated under them are taken for sources. -/
theorem isSourcePath_desk :
    Settings.load [] desk (some ⟨"crankgen.toml"⟩) = .ok deskSettings ∧
      isSourcePath deskSettings.sourceExtension
        (deskSettings.output.pathFor ⟨"a.crankgen"⟩ 1) = true := by
  have hname : FileSystem.IsFileName "crankgen.toml" :=
    ⟨⟨by decide, by decide⟩, by decide, by decide⟩
  have hfind : desk.find true ⟨"crankgen.toml"⟩ = .ok (["work", "crankgen.toml"],
      .file (.text "version = 1\n[output]\nextension = \".x.crankgen\"\n")) :=
    FileSystem.find_fileName true hname rfl
  have htext : Settings.ofText [] ⟨"crankgen.toml"⟩
      "version = 1\n[output]\nextension = \".x.crankgen\"\n" = .ok deskSettings := by
    decide +kernel
  have hload : Settings.load [] desk (some ⟨"crankgen.toml"⟩) = .ok deskSettings :=
    (Settings.load_of_find [] hfind).trans htext
  refine ⟨hload, (isSourcePath_pathFor_iff hload ⟨"a.crankgen"⟩ 1).1.mpr ?_⟩
  exact ⟨by decide, ['.', 'x'], by decide, by decide⟩

end Fanout
