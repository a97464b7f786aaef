/-
  Fanout.Proofs.Value
  ───────────────────
  **Texts of values: braces and quotes.**

  Every value but a text is shown with digits, letters and signs, and none
  of these is a brace.  A placeholder that shows such a value puts no mark
  of a span into a template.

    • `braceless_text` — no value but a text is shown with a brace,
    • `unquoted_inQuotes` — what is put in quotes comes out of them again.
-/
import Fanout.Proofs.Number.Digits
import Fanout.Value

namespace Fanout

open Fanout.Number Fanout.Calendar

/-! ## §1. Texts without braces. -/

/-- There is no brace in the text. -/
structure Braceless (cs : List Char) : Prop where
  /-- None that opens. -/
  noOpening : '\x7b' ∉ cs
  /-- None that closes. -/
  noClosing : '\x7d' ∉ cs

variable {c : Char} {cs ds : List Char}

theorem braceless_nil : Braceless [] := ⟨List.not_mem_nil, List.not_mem_nil⟩

@[simp] theorem braceless_cons : Braceless (c :: cs) ↔ c ≠ '\x7b' ∧ c ≠ '\x7d' ∧ Braceless cs := by
  constructor
  · rintro ⟨hopen, hclose⟩
    rw [List.mem_cons, not_or] at hopen hclose
    exact ⟨Ne.symm hopen.1, Ne.symm hclose.1, hopen.2, hclose.2⟩
  · rintro ⟨hopen, hclose, h⟩
    refine ⟨?_, ?_⟩
    · rw [List.mem_cons, not_or]
      exact ⟨Ne.symm hopen, h.noOpening⟩
    · rw [List.mem_cons, not_or]
      exact ⟨Ne.symm hclose, h.noClosing⟩

@[simp] theorem braceless_append : Braceless (cs ++ ds) ↔ Braceless cs ∧ Braceless ds := by
  constructor
  · rintro ⟨hopen, hclose⟩
    rw [List.mem_append, not_or] at hopen hclose
    exact ⟨⟨hopen.1, hclose.1⟩, hopen.2, hclose.2⟩
  · rintro ⟨hleft, hright⟩
    refine ⟨?_, ?_⟩
    · rw [List.mem_append, not_or]
      exact ⟨hleft.noOpening, hright.noOpening⟩
    · rw [List.mem_append, not_or]
      exact ⟨hleft.noClosing, hright.noClosing⟩

/-- A part of a text without braces has none. -/
theorem Braceless.of_subset (h : Braceless ds) (hsub : cs ⊆ ds) : Braceless cs :=
  ⟨fun hmem => h.noOpening (hsub hmem), fun hmem => h.noClosing (hsub hmem)⟩

@[simp] theorem braceless_replicate_zero (n : Nat) : Braceless (List.replicate n '0') :=
  ⟨by simp [List.mem_replicate], by simp [List.mem_replicate]⟩

/-! ## §2. Numbers. -/

@[simp] theorem braceless_digitsOf (n : Nat) : Braceless (digitsOf n) :=
  ⟨not_mem_digitsOf (by decide) n, not_mem_digitsOf (by decide) n⟩

@[simp] theorem braceless_padZeros (width n : Nat) : Braceless (padZeros width n) := by
  simp [padZeros]

@[simp] theorem braceless_intDigits (n : Int) : Braceless (intDigits n) := by
  unfold intDigits
  split
  · simp
  · simp

@[simp] theorem braceless_signText (negative : Bool) : Braceless (signText negative) := by
  cases negative with
  | false => exact braceless_nil
  | true => simp [signText, braceless_nil]

/-- A decimal without an exponent is digits around a point. -/
theorem braceless_positional (d : Decimal) : Braceless d.positional := by
  unfold Decimal.positional
  dsimp only
  split
  · simp
  · have hpadded : ∀ n, Braceless (List.replicate n '0' ++ digitsOf d.digits) := by simp
    simp only [braceless_append, braceless_cons]
    exact ⟨(hpadded _).of_subset (List.take_subset _ _), by decide, by decide,
      (hpadded _).of_subset (List.drop_subset _ _)⟩

/-- So is the mantissa of one with an exponent. -/
theorem braceless_scientific (d : Decimal) : Braceless d.scientific.1 := by
  have hdigits := braceless_digitsOf d.digits
  unfold Decimal.scientific
  dsimp only
  split
  · rename_i first second rest hds
    rw [hds] at hdigits
    simpa using hdigits
  · exact hdigits

theorem braceless_floatText (x : Float) : Braceless (floatText x).toList := by
  unfold floatText
  split
  · exact ⟨by decide, by decide⟩
  · simp [braceless_nil]
  · rename_i negative mantissa exponent _
    have hpositional := braceless_positional (shortest mantissa exponent)
    have hscientific := braceless_scientific (shortest mantissa exponent)
    rw [String.toList_ofList, braceless_append]
    refine ⟨braceless_signText negative, ?_⟩
    split
    · simp [braceless_nil]
    · dsimp only
      split
      · -- digits, the mark of the exponent, its sign and its digits
        unfold exponentText
        split
        · simp [hscientific]
        · simp [hscientific]
      · split
        · exact hpositional
        · simp [hpositional, braceless_nil]

/-! ## §3. Points in time and durations. -/

theorem braceless_yearText (year : Int) : Braceless (yearText .zeros year) := by
  have hfilled : ∀ width plus, Braceless (filled .zeros width plus year) := by
    intro width plus
    unfold filled
    dsimp only
    split
    · simp
    · split
      · simp
      · simp
  unfold yearText
  split
  · exact hfilled 4 false
  · exact hfilled 5 true

theorem braceless_microsText (micros : Nat) : Braceless (microsText micros) := by
  unfold microsText
  split
  · exact braceless_nil
  · simp

theorem braceless_dateTimeText (t : DateTime) : Braceless (dateTimeText ' ' t) := by
  simp [dateTimeText, dateText, clockText, braceless_yearText, braceless_microsText]

theorem braceless_durationText (p : DurationParts) : Braceless (durationText p) := by
  unfold durationText
  dsimp only
  split
  · simp [braceless_microsText]
  · split
    · simp [braceless_microsText]
    · simp [braceless_microsText]

/-! ## §4. Values. -/

/-- **No value but a text is shown with a brace.** -/
theorem braceless_text {v : Value} (h : ∀ s, v ≠ .str s) : Braceless v.text.toList := by
  cases v with
  | none => exact ⟨by decide, by decide⟩
  | bool b =>
      cases b with
      | false => exact ⟨by decide, by decide⟩
      | true => exact ⟨by decide, by decide⟩
  | int n =>
      show Braceless (String.ofList (intDigits n.toInt)).toList
      rw [String.toList_ofList]
      exact braceless_intDigits n.toInt
  | float x => exact braceless_floatText x
  | str s => exact absurd rfl (h s)
  | dateTime t =>
      show Braceless (String.ofList (dateTimeText ' ' t)).toList
      rw [String.toList_ofList]
      exact braceless_dateTimeText t
  | duration d =>
      show Braceless (String.ofList (durationText d.parts)).toList
      rw [String.toList_ofList]
      exact braceless_durationText d.parts
  | builtin f =>
      cases f <;> exact ⟨by decide, by decide⟩

/-! ## §5. Quotes. -/

theorem toList_inQuotes (s : String) : ("\"" ++ s ++ "\"").toList = '"' :: (s.toList ++ ['"']) := by
  rw [String.toList_append, String.toList_append]
  rfl

theorem isQuoted_inQuotes (s : String) : isQuoted ("\"" ++ s ++ "\"") = true := by
  unfold isQuoted
  rw [toList_inQuotes]
  cases s.toList with
  | nil => rfl
  | cons c cs =>
      show ((c :: (cs ++ ['"'])).getLast? == some '"') = true
      rw [← List.cons_append, List.getLast?_concat]
      rfl

/-- What is put in quotes comes out of them again. -/
theorem unquoted_inQuotes (s : String) : unquoted ("\"" ++ s ++ "\"") = s := by
  unfold unquoted
  rw [if_pos (isQuoted_inQuotes s), toList_inQuotes, List.drop_succ_cons, List.drop_zero,
    List.dropLast_concat, String.ofList_toList]

/-- A text that begins with no quote is in none. -/
theorem unquoted_of_head? {s : String} (h : s.toList.head? ≠ some '"') : unquoted s = s := by
  refine if_neg ?_
  unfold isQuoted
  split
  · rename_i hs
    rw [hs] at h
    exact absurd rfl h
  · decide

end Fanout
