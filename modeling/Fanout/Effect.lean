/-
  Fanout.Effect
  ─────────────
  **What a part of a run leaves behind.**

  A part of a run starts from a file system; it leaves a file system, the
  events on the way and a result.  Parts follow each other as long as they
  succeed.
-/
import Fanout.Files.FileSystem
import Fanout.Log.Event

namespace Fanout

/-- What a part of a run leaves behind. -/
structure Effect (ε α : Type) where
  /-- The files. -/
  files : Files.FileSystem
  /-- The events, in order. -/
  events : List Log.Event
  /-- What came of it. -/
  result : Except ε α

namespace Effect

variable {ε α β : Type}

/-- Success that changes nothing. -/
def done (files : Files.FileSystem) (a : α) : Effect ε α := ⟨files, [], .ok a⟩

/-- A failure that changes nothing. -/
def failed (files : Files.FileSystem) (e : ε) : Effect ε α := ⟨files, [], .error e⟩

/-- The same with events before it. -/
def after (events : List Log.Event) (e : Effect ε α) : Effect ε α :=
  { e with events := events ++ e.events }

/-- The same with the failure told in other terms. -/
def mapError {ε' : Type} (f : ε → ε') (e : Effect ε α) : Effect ε' α :=
  ⟨e.files, e.events, e.result.mapError f⟩

/-- Goes on from where a part ends, if it succeeds. -/
def andThen (e : Effect ε α) (next : Files.FileSystem → α → Effect ε β) : Effect ε β :=
  match e.result with
  | .error x => ⟨e.files, e.events, .error x⟩
  | .ok a => (next e.files a).after e.events

end Effect

end Fanout
