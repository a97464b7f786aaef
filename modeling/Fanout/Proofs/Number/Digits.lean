/-
  Fanout.Proofs.Number.Digits
  ───────────────────────────
  **Decimal digits.**

  The digits of a number are digits, and they tell the number.  Zeros in
  front change neither; they fill a number up to its width, and where it is
  wider they do nothing.
-/
import Fanout.Number.Numeral

namespace Fanout.Number

/-! ## §1. Digits. -/

/-- The digits of a number tell it. -/
theorem digitsOf_injective {n m : Nat} (h : digitsOf n = digitsOf m) : n = m := by
  have hread := congrArg (fun cs => Nat.ofDigitChars 10 cs 0) h
  simpa only [digitsOf, Nat.ofDigitChars_ten_toDigits] using hread

/-- The digits of a number are digits. -/
theorem not_mem_digitsOf {c : Char} (hc : c.isDigit = false) (n : Nat) : c ∉ digitsOf n := by
  intro h
  have hdigit := Nat.isDigit_of_mem_toDigits (b := 10) (by decide) (by decide) h
  rw [hc] at hdigit
  cases hdigit

theorem isDigit_of_mem_digitsOf {c : Char} {n : Nat} (h : c ∈ digitsOf n) : c.isDigit = true :=
  Nat.isDigit_of_mem_toDigits (by decide) (by decide) h

/-- The text of an integer tells it. -/
theorem intDigits_injective {n m : Int} (h : intDigits n = intDigits m) : n = m := by
  have hminus : ∀ k, '-' ∉ digitsOf k := not_mem_digitsOf rfl
  have hmixed : ∀ {j k : Nat}, '-' :: digitsOf j ≠ digitsOf k := fun {j k} heq =>
    hminus k (heq ▸ List.mem_cons_self)
  unfold intDigits at h
  by_cases hn : n < 0
  · by_cases hm : m < 0
    · rw [if_pos hn, if_pos hm] at h
      have habs := digitsOf_injective (List.cons.inj h).2
      omega
    · rw [if_pos hn, if_neg hm] at h
      exact absurd h hmixed
  · by_cases hm : m < 0
    · rw [if_neg hn, if_pos hm] at h
      exact absurd h.symm hmixed
    · rw [if_neg hn, if_neg hm] at h
      have habs := digitsOf_injective h
      omega

/-! ## §2. Numbers filled up with zeros. -/

variable {width n : Nat}

/-- What is filled up are digits. -/
theorem isDigit_of_mem_padZeros {c : Char} (h : c ∈ padZeros width n) : c.isDigit = true := by
  rcases List.mem_append.mp h with h | h
  · rw [List.eq_of_mem_replicate h]
    rfl
  · exact isDigit_of_mem_digitsOf h

/-- Zeros in front do not count. -/
theorem digitsValue_padZeros (width n : Nat) : digitsValue (padZeros width n) = n := by
  unfold digitsValue padZeros digitsOf
  rw [Nat.ofDigitChars_append, Nat.ofDigitChars_replicate_zero, Nat.mul_zero,
    Nat.ofDigitChars_ten_toDigits]

theorem length_padZeros (width n : Nat) :
    (padZeros width n).length = max width (digitsOf n).length := by
  unfold padZeros
  rw [List.length_append, List.length_replicate]
  omega

/-- A number that is not wider than its width is filled up to it. -/
theorem length_padZeros_of_lt (hwidth : 0 < width) (h : n < tenTo width) :
    (padZeros width n).length = width := by
  have hdigits : (digitsOf n).length ≤ width :=
    (Nat.length_toDigits_le_iff (by decide) hwidth).mpr h
  rw [length_padZeros, Nat.max_eq_left hdigits]

/-- There is always a digit. -/
theorem padZeros_ne_nil (width n : Nat) : padZeros width n ≠ [] := by
  unfold padZeros
  exact List.append_ne_nil_of_right_ne_nil _ Nat.toDigits_ne_nil

end Fanout.Number
