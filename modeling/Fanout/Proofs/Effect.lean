/-
  Fanout.Proofs.Effect
  ────────────────────
  **Parts of a run, one after the other.**
-/
import Fanout.Effect

namespace Fanout.Effect

variable {ε α β : Type} {e : Effect ε α} {next : Files.FileSystem → α → Effect ε β}

@[simp] theorem files_after (events : List Log.Event) (e : Effect ε α) :
    (e.after events).files = e.files := rfl

@[simp] theorem result_after (events : List Log.Event) (e : Effect ε α) :
    (e.after events).result = e.result := rfl

@[simp] theorem files_mapError {ε' : Type} (f : ε → ε') (e : Effect ε α) :
    (e.mapError f).files = e.files := rfl

@[simp] theorem result_mapError {ε' : Type} (f : ε → ε') (e : Effect ε α) :
    (e.mapError f).result = e.result.mapError f := rfl

/-- A part that succeeds is followed by the next one. -/
theorem andThen_of_ok {a : α} (h : e.result = .ok a) :
    e.andThen next = (next e.files a).after e.events := by
  unfold andThen
  rw [h]

/-- A part that fails is followed by nothing. -/
theorem andThen_of_error {x : ε} (h : e.result = .error x) :
    e.andThen next = ⟨e.files, e.events, .error x⟩ := by
  unfold andThen
  rw [h]

/-- A next part that changes no file leaves the files as the first part does. -/
theorem files_andThen (h : ∀ files a, (next files a).files = files) :
    (e.andThen next).files = e.files := by
  cases hresult : e.result with
  | error x => rw [andThen_of_error hresult]
  | ok a => rw [andThen_of_ok hresult, files_after, h]

end Fanout.Effect
