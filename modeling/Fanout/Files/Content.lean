/-
  Fanout.Files.Content
  ────────────────────
  **What a file holds.**

  A file holds a text whenever its bytes are one, and bytes otherwise.
-/

namespace Fanout.Files

/-- The contents of a file. -/
inductive Content where
  /-- A text. -/
  | text (s : String)
  /-- Bytes that are no text. -/
  | binary (bytes : List UInt8)
  deriving DecidableEq

namespace Content

/-- The contents that bytes are. -/
def ofBytes (bytes : ByteArray) : Content :=
  match String.fromUTF8? bytes with
  | some s => .text s
  | none => .binary bytes.toList

/-- The bytes of the contents. -/
def bytes : Content → ByteArray
  | .text s => s.toUTF8
  | .binary b => ⟨b.toArray⟩

end Content

end Fanout.Files
