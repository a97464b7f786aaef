/-
  Fanout.Text.Utf8
  ────────────────
  **Texts measured in bytes.**

  Positions in diagnostics count the bytes of the UTF-8 form of a text.
-/

namespace Fanout.Text

/-- The bytes of a text. -/
def utf8 (cs : List Char) : List UInt8 := cs.flatMap String.utf8EncodeChar

/-- The number of bytes of a text. -/
def byteLength : List Char → Nat
  | [] => 0
  | c :: cs => c.utf8Size + byteLength cs

/-- Lengths add up. -/
theorem byteLength_append (as bs : List Char) :
    byteLength (as ++ bs) = byteLength as + byteLength bs := by
  induction as with
  | nil => simp [byteLength]
  | cons a as ih => simp [byteLength, ih, Nat.add_assoc]

/-- A text has as many bytes as its characters together. -/
theorem length_utf8 (cs : List Char) : (utf8 cs).length = byteLength cs := by
  induction cs with
  | nil => rfl
  | cons c cs ih =>
      rw [utf8, List.flatMap_cons, List.length_append, String.length_utf8EncodeChar, byteLength]
      exact congrArg (c.utf8Size + ·) ih

theorem utf8_append (as bs : List Char) : utf8 (as ++ bs) = utf8 as ++ utf8 bs :=
  List.flatMap_append

/-- The text from a byte on, if a character begins or the text ends there. -/
def fromByte? : Nat → List Char → Option (List Char)
  | 0, cs => some cs
  | _ + 1, [] => none
  | n + 1, c :: cs => if c.utf8Size ≤ n + 1 then fromByte? (n + 1 - c.utf8Size) cs else none

/-- The text up to a byte, if a character begins or the text ends there. -/
def uptoByte? : Nat → List Char → Option (List Char)
  | 0, _ => some []
  | _ + 1, [] => none
  | n + 1, c :: cs =>
    if c.utf8Size ≤ n + 1 then (uptoByte? (n + 1 - c.utf8Size) cs).map (c :: ·) else none

/-- The text from one byte up to another. -/
def betweenBytes? (start stop : Nat) (cs : List Char) : Option (List Char) :=
  (fromByte? start cs).bind (uptoByte? (stop - start))

/-- Behind the bytes of the first part of a text stands the second part. -/
theorem fromByte?_append (as bs : List Char) :
    fromByte? (byteLength as) (as ++ bs) = some bs := by
  induction as with
  | nil => simp [byteLength, fromByte?]
  | cons a as ih =>
    have h := a.utf8Size_pos
    obtain ⟨n, hn⟩ : ∃ n, byteLength (a :: as) = n + 1 :=
      ⟨a.utf8Size + byteLength as - 1, by simp only [byteLength]; omega⟩
    have hle : a.utf8Size ≤ n + 1 := by simp only [byteLength] at hn; omega
    have hsub : n + 1 - a.utf8Size = byteLength as := by simp only [byteLength] at hn; omega
    rw [hn, List.cons_append, fromByte?, if_pos hle, hsub, ih]

/-- Up to the bytes of the first part of a text stands the first part. -/
theorem uptoByte?_append (as bs : List Char) :
    uptoByte? (byteLength as) (as ++ bs) = some as := by
  induction as with
  | nil => simp [byteLength, uptoByte?]
  | cons a as ih =>
    have h := a.utf8Size_pos
    obtain ⟨n, hn⟩ : ∃ n, byteLength (a :: as) = n + 1 :=
      ⟨a.utf8Size + byteLength as - 1, by simp only [byteLength]; omega⟩
    have hle : a.utf8Size ≤ n + 1 := by simp only [byteLength] at hn; omega
    have hsub : n + 1 - a.utf8Size = byteLength as := by simp only [byteLength] at hn; omega
    rw [hn, List.cons_append, uptoByte?, if_pos hle, hsub, ih, Option.map_some]

/-- Two parts of a text are told by the bytes of the first one. -/
theorem append_inj_of_byteLength {as bs cs ds : List Char} (h : as ++ bs = cs ++ ds)
    (hlength : byteLength as = byteLength cs) : as = cs ∧ bs = ds := by
  have hupto := uptoByte?_append as bs
  have hfrom := fromByte?_append as bs
  rw [h, hlength, uptoByte?_append] at hupto
  rw [h, hlength, fromByte?_append] at hfrom
  exact ⟨(Option.some.inj hupto).symm, (Option.some.inj hfrom).symm⟩

end Fanout.Text
