/-
  Fanout.Proofs.Source.Search
  ───────────────────────────
  **The list of all sources.**

  Arguments are turned into sources before anything is written, each for
  itself: `expandSources_ok` gives the whole list when every argument can
  be used, and `expandSources_error` a failure as soon as one cannot,
  wherever it stands.  No file is touched in either case.
-/
import Fanout.Proofs.Effect
import Fanout.Source.Search

namespace Fanout

open Fanout.Files

/-- An argument that stands for no sources: nothing is there, or it is a directory that cannot
be searched. -/
def Unusable (files : FileSystem) (arg : Path) : Prop :=
  files.hasNode arg = false ∨
    files.isDirectory arg = true ∧ ∃ cause, allFiles files arg = .error cause

/-- The sources that a usable argument stands for: a directory for all those at and below it,
anything else for itself. -/
def sourcesFound (files : FileSystem) (extension : String) (arg : Path) : List Path :=
  if files.isDirectory arg then
    match allFiles files arg with
    | .error _ => []
    | .ok found => found.filter (isSourcePath extension)
  else [arg]

theorem hasNode_of_isDirectory {files : FileSystem} {p : Path} (h : files.isDirectory p = true) :
    files.hasNode p = true := by
  unfold FileSystem.isDirectory at h
  unfold FileSystem.hasNode
  split at h
  · rename_i place hfind
    rw [hfind]
  · cases h

variable (files : FileSystem) (extension : String)

theorem files_sourcesOf (arg : Path) : (sourcesOf files extension arg).files = files := by
  unfold sourcesOf discoverSources
  split
  · split
    · rfl
    · rfl
  · split
    · rfl
    · rfl

/-- A usable argument gives its sources. -/
theorem sourcesOf_ok {arg : Path} (h : ¬ Unusable files arg) :
    (sourcesOf files extension arg).result = .ok (sourcesFound files extension arg) := by
  unfold sourcesOf sourcesFound discoverSources
  by_cases hdir : files.isDirectory arg = true
  · rw [if_pos hdir, if_pos hdir]
    cases hall : allFiles files arg with
    | error cause => exact absurd (.inr ⟨hdir, cause, hall⟩) h
    | ok found => rfl
  · rw [if_neg hdir, if_neg hdir]
    cases hnode : files.hasNode arg with
    | false => exact absurd (.inl hnode) h
    | true => rfl

/-- An unusable argument gives a failure. -/
theorem sourcesOf_error {arg : Path} (h : Unusable files arg) :
    ∃ fault, (sourcesOf files extension arg).result = .error fault := by
  unfold sourcesOf discoverSources
  rcases h with hnode | ⟨hdir, cause, hall⟩
  · have hdir : ¬ files.isDirectory arg = true := fun hdir => by
      rw [hasNode_of_isDirectory hdir] at hnode
      cases hnode
    rw [if_neg hdir, hnode]
    exact ⟨_, rfl⟩
  · rw [if_pos hdir, hall]
    exact ⟨_, rfl⟩

/-- **Turning arguments into sources touches no file.** -/
theorem files_expandSources (args : List Path) :
    (expandSources files extension args).files = files := by
  induction args with
  | nil => rfl
  | cons arg args ih =>
      have hfirst := files_sourcesOf files extension arg
      rw [expandSources]
      cases hresult : (sourcesOf files extension arg).result with
      | error fault =>
          rw [Effect.andThen_of_error hresult]
          exact hfirst
      | ok found =>
          rw [Effect.andThen_of_ok hresult, Effect.files_after, hfirst,
            Effect.files_andThen fun _ _ => rfl]
          exact ih

/-- **Usable arguments give their sources, in order.** -/
theorem expandSources_ok (args : List Path) : (∀ arg ∈ args, ¬ Unusable files arg) →
    (expandSources files extension args).result =
      .ok (args.flatMap (sourcesFound files extension)) := by
  induction args with
  | nil => intro _; rfl
  | cons arg args ih =>
      intro h
      have hfirst := sourcesOf_ok files extension (h arg List.mem_cons_self)
      have hmore := ih fun a ha => h a (List.mem_cons_of_mem arg ha)
      rw [expandSources, Effect.andThen_of_ok hfirst, files_sourcesOf, Effect.result_after,
        Effect.andThen_of_ok hmore]
      rfl

/-- **An unusable argument is a failure, wherever it stands.** -/
theorem expandSources_error {arg : Path} (h : Unusable files arg) (args : List Path) :
    arg ∈ args → ∃ fault, (expandSources files extension args).result = .error fault := by
  induction args with
  | nil => intro hmem; exact absurd hmem List.not_mem_nil
  | cons first args ih =>
      intro hmem
      rw [expandSources]
      cases hresult : (sourcesOf files extension first).result with
      | error fault =>
          rw [Effect.andThen_of_error hresult]
          exact ⟨fault, rfl⟩
      | ok found =>
          -- The first argument is usable, so the unusable one is among the others.
          have hrest : arg ∈ args := by
            rcases List.mem_cons.mp hmem with rfl | hrest
            · obtain ⟨fault, herror⟩ := sourcesOf_error files extension h
              rw [hresult] at herror
              cases herror
            · exact hrest
          obtain ⟨fault, herror⟩ := ih hrest
          rw [Effect.andThen_of_ok hresult, files_sourcesOf, Effect.andThen_of_error herror]
          exact ⟨fault, rfl⟩

end Fanout
