/-
  Fanout.Proofs.Number.FloatText
  ──────────────────────────────
  **The text of a float is a sign and a numeral that reads back.**

  A numeral has digits, a point with digits behind it or none, and an
  exponent or none; one of the two it has, so that it never looks like an
  integer.  The text of a finite float is one of three shapes:

    • `exists_numeral_positional` — digits around a point, where the
      exponent of the decimal is made up by zeros,
    • `exists_numeral_scientific` — one digit before the point, and an
      exponent,
    • `exists_numeral` — either of them, or zero; what the numeral says is
      read as the float, without its sign,
    • `readWord?_text` — no numeral is read as an integer.
-/
import Fanout.Proofs.Number.Digits
import Fanout.Proofs.Number.Shortest

namespace Fanout.Number

/-! ## §1. Numerals. -/

/-- A number in decimal that does not look like an integer. -/
structure Numeral where
  /-- The digits before the point. -/
  whole : List Char
  /-- The digits behind it; without any there is no point. -/
  fraction : List Char
  /-- The exponent, if it has one. -/
  power : Option Int
  /-- Something stands before the point. -/
  whole_ne_nil : whole ≠ []
  /-- These are digits. -/
  isDigit_whole : ∀ c ∈ whole, c.isDigit = true
  /-- So are those behind the point. -/
  isDigit_fraction : ∀ c ∈ fraction, c.isDigit = true
  /-- There is a point or an exponent. -/
  marked : fraction ≠ [] ∨ power ≠ none

namespace Numeral

/-- The point with the digits behind it. -/
def pointText : List Char → List Char
  | [] => []
  | c :: cs => '.' :: c :: cs

/-- The exponent with its mark. -/
def powerText : Option Int → List Char
  | none => []
  | some e => 'e' :: exponentText e

/-- A numeral as it is written. -/
def text (n : Numeral) : List Char := n.whole ++ (pointText n.fraction ++ powerText n.power)

/-- All its digits as a number. -/
def digits (n : Numeral) : Nat := digitsValue (n.whole ++ n.fraction)

/-- The power of ten that the last digit counts. -/
def exponent (n : Numeral) : Int := n.power.getD 0 - n.fraction.length

/-- A numeral begins with a digit. -/
theorem exists_text_cons (n : Numeral) :
    ∃ c cs, n.text = c :: cs ∧ c.isDigit = true := by
  obtain ⟨c, cs, hwhole⟩ := List.exists_cons_of_ne_nil n.whole_ne_nil
  refine ⟨c, cs ++ (pointText n.fraction ++ powerText n.power), ?_, ?_⟩
  · rw [text, hwhole]
    rfl
  · exact n.isDigit_whole c (by rw [hwhole]; exact List.mem_cons_self)

/-- It has a character that is no digit. -/
theorem exists_not_isDigit (n : Numeral) : ∃ c ∈ n.text, c.isDigit = false := by
  unfold text
  rcases n.marked with hfraction | hpower
  · obtain ⟨c, cs, hcs⟩ := List.exists_cons_of_ne_nil hfraction
    exact ⟨'.', by simp [hcs, pointText], rfl⟩
  · obtain ⟨e, he⟩ := Option.ne_none_iff_exists'.mp hpower
    exact ⟨'e', by simp [he, powerText], rfl⟩

/-- **No numeral is read as an integer**, with a sign or without. -/
theorem readWord?_text (n : Numeral) (negative : Bool) :
    readWord? (signText negative ++ n.text) = none := by
  obtain ⟨d, hd, hno⟩ := n.exists_not_isDigit
  have hsplit : splitSign (signText negative ++ n.text) = (negative, n.text) := by
    cases negative with
    | true => rfl
    | false =>
        obtain ⟨c, cs, hcs, hc⟩ := n.exists_text_cons
        show splitSign n.text = _
        rw [hcs]
        unfold splitSign
        split
        next h =>
          obtain ⟨rfl, -⟩ := List.cons.inj h
          exact absurd hc (by decide)
        next h =>
          obtain ⟨rfl, -⟩ := List.cons.inj h
          exact absurd hc (by decide)
        next => rfl
  have hall : n.text.all Char.isDigit = false := by
    rw [List.all_eq_false]
    exact ⟨d, hd, by rw [hno]; decide⟩
  unfold readWord?
  rw [hsplit]
  dsimp only
  rw [hall, Bool.not_false, Bool.or_true, if_pos rfl]

/-- The numeral stands for the decimal: its digits are those of the decimal, or these with zeros up
to one behind the point. -/
def Shows (n : Numeral) (d : Decimal) : Prop :=
  ∃ zeros : Nat, n.digits = d.digits * 10 ^ zeros ∧ n.exponent = d.exponent - zeros ∧
    (zeros = 0 ∨ n.exponent = -1)

end Numeral

/-! ## §2. Decimals. -/

theorem digitsValue_digitsOf (n : Nat) : digitsValue (digitsOf n) = n :=
  Nat.ofDigitChars_ten_toDigits

theorem digitsValue_append_zeros (cs : List Char) (k : Nat) :
    digitsValue (cs ++ List.replicate k '0') = digitsValue cs * 10 ^ k := by
  unfold digitsValue
  rw [Nat.ofDigitChars_append, Nat.ofDigitChars_replicate_zero, Nat.mul_comm]

/-- Whole numbers are written with zeros at their end. -/
theorem positional_of_nonneg {d : Decimal} (h : 0 ≤ d.exponent) :
    d.positional = digitsOf d.digits ++ List.replicate d.exponent.toNat '0' := by
  unfold Decimal.positional
  exact if_pos h

/-- Others are filled up with zeros in front, so that a digit stands before the point. -/
theorem positional_of_neg {d : Decimal} (h : d.exponent < 0) :
    ∃ whole fraction, d.positional = whole ++ '.' :: fraction ∧ whole ≠ [] ∧
      (fraction.length : Int) = -d.exponent ∧
      whole ++ fraction = padZeros ((-d.exponent).toNat + 1) d.digits := by
  have hlength := length_padZeros ((-d.exponent).toNat + 1) d.digits
  have hpositional : d.positional =
      (padZeros ((-d.exponent).toNat + 1) d.digits).take
          ((padZeros ((-d.exponent).toNat + 1) d.digits).length - (-d.exponent).toNat) ++
        '.' :: (padZeros ((-d.exponent).toNat + 1) d.digits).drop
          ((padZeros ((-d.exponent).toNat + 1) d.digits).length - (-d.exponent).toNat) := by
    unfold Decimal.positional
    exact if_neg (by omega)
  refine ⟨_, _, hpositional, List.ne_nil_of_length_pos ?_, ?_, List.take_append_drop _ _⟩
  · rw [List.length_take]
    omega
  · rw [List.length_drop]
    omega

/-- A whole number is a numeral when one more zero stands behind a point. -/
theorem exists_numeral_of_nonneg {d : Decimal} (h : 0 ≤ d.exponent) :
    '.' ∉ d.positional ∧ ∃ n : Numeral, n.Shows d ∧ d.positional ++ ['.', '0'] = n.text := by
  have hpositional := positional_of_nonneg h
  have hdigits : ∀ c ∈ d.positional, c.isDigit = true := by
    intro c hc
    rw [hpositional] at hc
    rcases List.mem_append.mp hc with hc | hc
    · exact isDigit_of_mem_digitsOf hc
    · rw [List.eq_of_mem_replicate hc]
      rfl
  have hne : d.positional ≠ [] := by
    rw [hpositional]
    exact List.append_ne_nil_of_left_ne_nil Nat.toDigits_ne_nil _
  refine ⟨fun hpoint => absurd (hdigits '.' hpoint) (by decide),
    ⟨d.positional, ['0'], none, hne, hdigits, by simp, .inl (by simp)⟩,
    ⟨d.exponent.toNat + 1, ?_, ?_, .inr rfl⟩, rfl⟩
  · show digitsValue (d.positional ++ ['0']) = _
    rw [hpositional, List.append_assoc, ← List.replicate_succ', digitsValue_append_zeros,
      digitsValue_digitsOf]
  · show (0 : Int) - (1 : Nat) = _
    omega

/-- Any other number is a numeral as it is. -/
theorem exists_numeral_of_neg {d : Decimal} (h : d.exponent < 0) :
    '.' ∈ d.positional ∧ ∃ n : Numeral, n.Shows d ∧ d.positional = n.text := by
  obtain ⟨whole, fraction, hpositional, hwhole, hlength, hjoin⟩ := positional_of_neg h
  have hdigits : ∀ c ∈ whole ++ fraction, c.isDigit = true := by
    intro c hc
    rw [hjoin] at hc
    exact isDigit_of_mem_padZeros hc
  rw [hpositional]
  refine ⟨List.mem_append_right whole List.mem_cons_self, ?_⟩
  cases fraction with
  | nil =>
      rw [List.length_nil] at hlength
      omega
  | cons c cs =>
      refine ⟨⟨whole, c :: cs, none, hwhole, fun c hc => hdigits c (List.mem_append_left _ hc),
        fun c hc => hdigits c (List.mem_append_right _ hc), .inl (List.cons_ne_nil c cs)⟩,
        ⟨0, ?_, ?_, .inl rfl⟩, ?_⟩
      · show digitsValue (whole ++ c :: cs) = _
        rw [hjoin, digitsValue_padZeros, Nat.pow_zero, Nat.mul_one]
      · show (0 : Int) - (c :: cs).length = _
        omega
      · simp [Numeral.text, Numeral.pointText, Numeral.powerText]

/-- **A decimal without an exponent is a numeral**, with `.0` at its end where it has no point. -/
theorem exists_numeral_positional (d : Decimal) :
    ∃ n : Numeral, n.Shows d ∧ (if d.positional.contains '.' then d.positional
      else d.positional ++ ['.', '0']) = n.text := by
  by_cases hexponent : 0 ≤ d.exponent
  · obtain ⟨hpoint, n, hshows, htext⟩ := exists_numeral_of_nonneg hexponent
    rw [if_neg (List.contains_iff_mem.not.mpr hpoint)]
    exact ⟨n, hshows, htext⟩
  · obtain ⟨hpoint, n, hshows, htext⟩ := exists_numeral_of_neg (not_le.mp hexponent)
    rw [if_pos (List.contains_iff_mem.mpr hpoint)]
    exact ⟨n, hshows, htext⟩

/-- **A decimal with an exponent is a numeral.** -/
theorem exists_numeral_scientific (d : Decimal) :
    ∃ n : Numeral, n.Shows d ∧ d.scientific.1 ++ 'e' :: exponentText d.scientific.2 = n.text := by
  have hdigits : ∀ c ∈ digitsOf d.digits, c.isDigit = true := fun c => isDigit_of_mem_digitsOf
  have hvalue := digitsValue_digitsOf d.digits
  unfold Decimal.scientific
  dsimp only
  cases hds : digitsOf d.digits with
  | nil => exact absurd hds Nat.toDigits_ne_nil
  | cons first rest =>
      rw [hds] at hdigits hvalue
      obtain ⟨hfirst, hrest⟩ := List.forall_mem_cons.mp hdigits
      refine ⟨⟨[first], rest, some (d.exponent + ((first :: rest).length : Int) - 1), by simp,
        by simpa using hfirst, hrest, .inr (by simp)⟩, ⟨0, ?_, ?_, .inl rfl⟩, ?_⟩
      · show digitsValue (first :: rest) = _
        rw [hvalue, Nat.pow_zero, Nat.mul_one]
      · show d.exponent + ((first :: rest).length : Int) - 1 - rest.length = _
        rw [List.length_cons]
        omega
      · cases rest with
        | nil => rfl
        | cons second rest => rfl

/-! ## §3. Finite floats. -/

/-- The float stands for a number that is not infinite. -/
def IsFinite (x : Float) : Prop :=
  ∃ negative mantissa exponent, read x = .finite negative mantissa exponent

theorem magnitudeBits_lt_of_isFinite {x : Float} (h : IsFinite x) :
    magnitudeBits x < infinityBits := by
  obtain ⟨negative, mantissa, exponent, hread⟩ := h
  by_contra hlarge
  have hmod : magnitudeBits x < twoTo 63 := Nat.mod_lt _ (by decide)
  have hexponent : magnitudeBits x / twoTo 52 = 2047 := by
    rw [infinityBits_eq] at hlarge
    rw [twoTo_63] at hmod
    rw [twoTo_52]
    omega
  unfold read at hread
  dsimp only at hread
  rw [if_pos hexponent] at hread
  split at hread
  · cases hread
  · cases hread

theorem lt_of_tenth_le {n k : Nat} (h : (n : ℚ) * 10 ^ (-1 : Int) ≤ 2 ^ k) : n < 2 ^ (k + 4) := by
  have hdigits : (n : ℚ) ≤ 10 * 2 ^ k := by
    rw [zpow_neg_one] at h
    linarith
  have hnat : n ≤ 10 * 2 ^ k := by exact_mod_cast hdigits
  have hpos := Nat.two_pow_pos k
  rw [pow_add]
  omega

/-- **A numeral for the shortest decimal of a float is read as the float**, without its sign. -/
theorem floatOfDecimal_of_shows {e m : Nat} (hm : m < 2 ^ 53) (hnormal : 2 ^ 52 ≤ m ∨ e = 0)
    (hpos : 0 < m) (hinf : e * 2 ^ 52 + m < infinityBits) {n : Numeral}
    (h : n.Shows (shortest m ((e : Int) - 1074))) :
    floatOfDecimal false n.digits n.exponent = ofMagnitudeBits false (e * 2 ^ 52 + m) := by
  have he : e ≤ 2045 := by
    rw [infinityBits_eq] at hinf
    omega
  have hsuits : (shortest m ((e : Int) - 1074)).Suits (Neighbourhood.of m ((e : Int) - 1074)) :=
    shortest_suits hpos hm (by omega) (by omega)
  obtain ⟨hdigits, hfew, hlow, hhigh, hholds⟩ := hsuits
  obtain ⟨zeros, hshown, hexponent, hzeros⟩ := h
  -- Zeros that are moved do not change the number.
  have hvalue : (n.digits : ℚ) * 10 ^ n.exponent =
      (shortest m ((e : Int) - 1074)).digits * 10 ^ (shortest m ((e : Int) - 1074)).exponent := by
    rw [hshown, hexponent, zpow_sub₀ (by norm_num), zpow_natCast]
    push_cast
    field_simp
  have hsome : 0 < n.digits := by
    rw [hshown]
    positivity
  rw [← hvalue] at hholds
  rcases hzeros with rfl | hpoint
  · rw [Nat.pow_zero, Nat.mul_one] at hshown
    exact floatOfDecimal_of_holds hm hnormal hpos hinf.le false hsome (hshown ▸ hfew) (by omega)
      (by omega) hholds
  · -- The digits are at most ten times the upper end of the neighbourhood.
    have hbound : n.digits < 2 ^ (1025 + 4) := by
      have htop := hholds.high.trans (high_le m ((e : Int) - 1074))
      have hlog : m.log2 < 53 := (Nat.log2_lt hpos.ne').mpr hm
      have hlarge : (2 : ℚ) ^ ((m.log2 : Int) + ((e : Int) - 1074) + 1) ≤ 2 ^ (1025 : Nat) := by
        rw [← zpow_natCast]
        exact zpow_le_zpow_right₀ one_le_two (by omega)
      rw [hpoint] at htop
      exact lt_of_tenth_le (htop.trans hlarge)
    exact floatOfDecimal_of_holds hm hnormal hpos hinf.le false hsome hbound (by omega) (by omega)
      hholds

/-- The numeral for zero. -/
def zeroNumeral : Numeral :=
  ⟨['0'], ['0'], none, by simp, by simp, by simp, .inl (by simp)⟩

/-- **The text of a finite float is its sign and a numeral**, and what that says is read as the
float without its sign. -/
theorem exists_numeral {x : Float} (h : IsFinite x) :
    ∃ n : Numeral, (floatText x).toList = signText (isNegative x) ++ n.text ∧
      floatOfDecimal false n.digits n.exponent = ofMagnitudeBits false (magnitudeBits x) := by
  have hfinite := magnitudeBits_lt_of_isFinite h
  obtain ⟨e, m, hbits, hm, hnormal, hread⟩ := read_of_lt hfinite
  unfold floatText
  rw [hread]
  dsimp only
  rw [String.toList_ofList]
  by_cases hzero : m = 0
  · -- Without a mantissa the exponent is the least one.
    have hbits : magnitudeBits x = 0 := by omega
    rw [if_pos hzero, hbits]
    exact ⟨zeroNumeral, rfl, rfl⟩
  · rw [hbits] at hfinite ⊢
    rw [if_neg hzero]
    have hpos := Nat.pos_of_ne_zero hzero
    by_cases hneeds : needsExponent x = true
    · obtain ⟨n, hshows, htext⟩ := exists_numeral_scientific (shortest m ((e : Int) - 1074))
      rw [if_pos hneeds, htext]
      exact ⟨n, rfl, floatOfDecimal_of_shows hm hnormal hpos hfinite hshows⟩
    · obtain ⟨n, hshows, htext⟩ := exists_numeral_positional (shortest m ((e : Int) - 1074))
      rw [if_neg hneeds, htext]
      exact ⟨n, rfl, floatOfDecimal_of_shows hm hnormal hpos hfinite hshows⟩

end Fanout.Number
