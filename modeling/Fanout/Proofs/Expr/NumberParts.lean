/-
  Fanout.Proofs.Expr.NumberParts
  ──────────────────────────────
  **The parts of a number.**

  A number is a run of digits, a fraction or none, and an exponent or none.
  The underscores are dropped, and then there is nothing in it that could
  not be read: a number with a fraction or an exponent is a float, and any
  other is an integer or too large for one:

    • `readFraction_eq_none_iff`, `readPower_eq_none_iff` — what counts as a
      fraction and as an exponent,
    • `readPower_mark`, `isPower_powerOf` — an exponent says what is read,
    • `readFloat?_number`, `readWord?_digits` — what is read of a number's
      text,
    • `scanNumber_eq`, `numberValue_eq_error_iff` — what `scanNumber` gives,
      and when it refuses a number.
-/
import Fanout.Proofs.Expr.FloatText
import Fanout.Proofs.Number.Word

namespace Fanout.Expr

open Fanout.Number Fanout.Text

/-! ## §1. Fractions. -/

/-- A point with the digits behind it, if there is one. -/
def fractionText : Option (List Char) → List Char
  | none => []
  | some ds => '.' :: ds

/-- A point is a fraction unless it belongs to an attribute. -/
theorem readFraction_point (rest : List Char) :
    readFraction ('.' :: rest) =
      if rest.head?.any isNameStart then none else some (rest.takeWhile isNumberChar) := by
  cases rest with
  | nil => rfl
  | cons d rest => rfl

theorem readFraction_of_ne {after : List Char} (h : after.head? ≠ some '.') :
    readFraction after = none := by
  unfold readFraction
  split
  · exact absurd rfl h
  · exact absurd rfl h
  · rfl

theorem isNumberChar_of_readFraction {after ds : List Char} (h : readFraction after = some ds) :
    ∀ c ∈ ds, isNumberChar c = true := by
  by_cases hhead : after.head? = some '.'
  · obtain ⟨rest, rfl⟩ := List.head?_eq_some_iff.mp hhead
    rw [readFraction_point] at h
    split at h
    · cases h
    · cases h
      exact fun c => List.mem_takeWhile_imp
  · rw [readFraction_of_ne hhead] at h
    cases h

/-- A fraction comes next: a point that belongs to no attribute. -/
def FractionNext (behind : List Char) : Prop :=
  ∃ rest, behind = '.' :: rest ∧ rest.head?.any isNameStart = false

theorem readFraction_eq_none_iff {behind : List Char} :
    readFraction behind = none ↔ ¬ FractionNext behind := by
  by_cases hhead : behind.head? = some '.'
  · obtain ⟨rest, rfl⟩ := List.head?_eq_some_iff.mp hhead
    rw [readFraction_point]
    constructor
    · rintro h ⟨rest', heq, hnone⟩
      obtain ⟨-, rfl⟩ := List.cons.inj heq
      rw [hnone] at h
      cases h
    · intro h
      refine if_pos ?_
      by_contra hnone
      exact h ⟨rest, rfl, Bool.not_eq_true _ ▸ hnone⟩
  · refine ⟨fun _ => ?_, fun _ => readFraction_of_ne hhead⟩
    rintro ⟨rest, rfl, -⟩
    exact hhead rfl

/-! ## §2. Exponents. -/

theorem dropUnderscores_nil : dropUnderscores [] = [] := rfl

theorem dropUnderscores_append (as bs : List Char) :
    dropUnderscores (as ++ bs) = dropUnderscores as ++ dropUnderscores bs :=
  List.filter_append _ _

theorem dropUnderscores_cons {c : Char} (hc : c ≠ '_') (cs : List Char) :
    dropUnderscores (c :: cs) = c :: dropUnderscores cs :=
  List.filter_cons_of_pos (bne_iff_ne.mpr hc)

/-- A text is the exponent that was read, or nothing if none was. -/
structure IsPower (power : Option (Int × Nat)) (tail : List Char) : Prop where
  /-- It has as many characters as were read. -/
  length : tail.length = (power.map Prod.snd).getD 0
  /-- It says what was read. -/
  value : readExponent? tail = some ((power.map Prod.fst).getD 0)
  /-- It begins with the mark of an exponent. -/
  mark : ∀ c, tail.head? = some c → c = 'e' ∨ c = 'E'
  /-- It has no underscores. -/
  plain : dropUnderscores tail = tail

theorem isPower_none : IsPower none [] := ⟨rfl, rfl, by simp, rfl⟩

/-- A text is the sign of what follows it, or nothing if that has none. -/
def IsSign (sign unsigned : List Char) : Prop :=
  sign = [] ∧ unsigned.head? ≠ some '+' ∧ unsigned.head? ≠ some '-' ∨ sign = ['+'] ∨ sign = ['-']

theorem exists_isSign (cs : List Char) :
    ∃ sign unsigned, cs = sign ++ unsigned ∧ IsSign sign unsigned := by
  by_cases hplus : cs.head? = some '+'
  · obtain ⟨unsigned, rfl⟩ := List.head?_eq_some_iff.mp hplus
    exact ⟨['+'], unsigned, rfl, .inr (.inl rfl)⟩
  · by_cases hminus : cs.head? = some '-'
    · obtain ⟨unsigned, rfl⟩ := List.head?_eq_some_iff.mp hminus
      exact ⟨['-'], unsigned, rfl, .inr (.inr rfl)⟩
    · exact ⟨[], cs, rfl, .inl ⟨rfl, hplus, hminus⟩⟩

variable {sign unsigned : List Char}

/-- A sign is split off. -/
theorem IsSign.splitSign_append (h : IsSign sign unsigned) :
    splitSign (sign ++ unsigned) = (decide (sign = ['-']), unsigned) := by
  rcases h with ⟨rfl, hplus, hminus⟩ | rfl | rfl
  · rw [List.nil_append]
    unfold splitSign
    split
    · exact absurd rfl hminus
    · exact absurd rfl hplus
    · rfl
  · rfl
  · rfl

/-- The sign of a text is the sign of the run that the text begins with. -/
theorem IsSign.takeWhile (h : IsSign sign unsigned) (p : Char → Bool) :
    IsSign sign (unsigned.takeWhile p) := by
  have hhead : ∀ d, (unsigned.takeWhile p).head? = some d → unsigned.head? = some d := by
    intro d hd
    rw [List.head?_takeWhile, Option.filter_eq_some_iff] at hd
    exact hd.1
  rcases h with ⟨rfl, hplus, hminus⟩ | rfl | rfl
  · exact .inl ⟨rfl, fun h => hplus (hhead '+' h), fun h => hminus (hhead '-' h)⟩
  · exact .inr (.inl rfl)
  · exact .inr (.inr rfl)

theorem IsSign.isAscii (h : IsSign sign unsigned) : ∀ c ∈ sign, c.toNat < 128 := by
  rcases h with ⟨rfl, -⟩ | rfl | rfl
  · exact fun c hc => absurd hc List.not_mem_nil
  · exact List.forall_mem_singleton.mpr (by decide)
  · exact List.forall_mem_singleton.mpr (by decide)

theorem IsSign.dropUnderscores (h : IsSign sign unsigned) : dropUnderscores sign = sign := by
  rcases h with ⟨rfl, -⟩ | rfl | rfl
  · rfl
  · rfl
  · rfl

/-- What an exponent with a sign and digits says, and how many characters it has. -/
def powerOf (e : Char) (sign digits : List Char) : Int × Nat :=
  (if sign = ['-'] then -(digitsValue digits : Int) else digitsValue digits,
    (e :: (sign ++ digits)).length)

/-- The mark of an exponent makes one with the digits behind it or behind a sign. -/
theorem readPower_mark {e : Char} (he : e = 'e' ∨ e = 'E') (h : IsSign sign unsigned) :
    readPower (e :: (sign ++ unsigned)) =
      if unsigned.head?.any Char.isDigit then
        some (powerOf e sign (unsigned.takeWhile Char.isDigit))
      else none := by
  rw [readPower, if_pos he, h.splitSign_append]
  dsimp only
  rw [isEmpty_takeWhile]
  cases unsigned.head?.any Char.isDigit with
  | false => rfl
  | true =>
      show some (_, _) = some (powerOf _ _ _)
      simp only [powerOf, List.length_append, List.length_cons, decide_eq_true_eq]
      congr 2
      omega

/-- An exponent with a sign and digits is read as what it says. -/
theorem isPower_powerOf {e : Char} (he : e = 'e' ∨ e = 'E') {digits : List Char}
    (hsign : IsSign sign digits) (hdigits : ∀ c ∈ digits, c.isDigit = true)
    (hne : digits ≠ []) :
    IsPower (some (powerOf e sign digits)) (e :: (sign ++ digits)) where
  length := rfl
  value := by
    have hall : digits.all Char.isDigit = true := List.all_eq_true.mpr hdigits
    have hnonempty : digits.isEmpty = false := List.isEmpty_eq_false_iff.mpr hne
    rw [readExponent?, if_pos he, hsign.splitSign_append]
    dsimp only
    rw [hall, hnonempty]
    simp only [powerOf, decide_eq_true_eq]
    rfl
  mark := by
    intro c hc
    cases hc
    exact he
  plain := by
    have hmark : e ≠ '_' := by rcases he with rfl | rfl <;> decide
    rw [dropUnderscores_cons hmark, dropUnderscores_append, hsign.dropUnderscores,
      dropUnderscores_of_isDigit hdigits]

/-- An exponent comes next: its mark, a sign or none, and a digit. -/
def PowerNext (behind : List Char) : Prop :=
  ∃ mark sign d rest, behind = mark :: (sign ++ d :: rest) ∧ (mark = 'e' ∨ mark = 'E') ∧
    (sign = [] ∨ sign = ['+'] ∨ sign = ['-']) ∧ d.isDigit = true

theorem readPower_eq_none_iff {behind : List Char} :
    readPower behind = none ↔ ¬ PowerNext behind := by
  constructor
  · rintro h ⟨mark, sign, d, rest, rfl, hmark, hsign, hd⟩
    have hbefore : IsSign sign (d :: rest) := by
      refine hsign.imp_left fun hnil => ⟨hnil, fun h => ?_, fun h => ?_⟩
      · obtain rfl := Option.some.inj h
        exact absurd hd (by decide)
      · obtain rfl := Option.some.inj h
        exact absurd hd (by decide)
    rw [readPower_mark hmark hbefore] at h
    have hdigit : (d :: rest).head?.any Char.isDigit = true := hd
    rw [if_pos hdigit] at h
    cases h
  · intro h
    cases behind with
    | nil => rfl
    | cons mark rest =>
        by_cases hmark : mark = 'e' ∨ mark = 'E'
        · obtain ⟨sign, unsigned, rfl, hsign⟩ := exists_isSign rest
          rw [readPower_mark hmark hsign]
          refine if_neg fun hdigit => h ?_
          obtain ⟨d, hd, hdigit⟩ := (Option.any_eq_true _ _).mp hdigit
          obtain ⟨ds, rfl⟩ := List.head?_eq_some_iff.mp hd
          exact ⟨mark, sign, d, ds, rfl, hmark, hsign.imp_left And.left, hdigit⟩
        · rw [readPower, if_neg hmark]

/-! ## §3. Texts of numbers. -/

/-- A digit or a point begins neither a sign nor a word. -/
theorem readFloat?_cons {c : Char} (h : c.isDigit = true ∨ c = '.') (cs : List Char) :
    readFloat? (c :: cs) = readDecimal? false (c :: cs) := by
  have hne : ∀ d, d.isDigit = false → d ≠ '.' → c ≠ d := by
    rintro d hd hpoint rfl
    rcases h with h | h
    · exact absurd h (by rw [hd]; decide)
    · exact hpoint h
  have hsplit : splitSign (c :: cs) = (false, c :: cs) := by
    unfold splitSign
    split
    · exact absurd (List.cons.inj ‹_›).1 (hne '-' (by decide) (by decide))
    · exact absurd (List.cons.inj ‹_›).1 (hne '+' (by decide) (by decide))
    · rfl
  have hlower : c.toLower = c := by
    refine dif_neg fun hupper => ?_
    have hlow : 65 ≤ c.val.toNat := UInt32.le_iff_toNat_le.mp hupper.1
    rcases h with h | rfl
    · have hhigh := (Char.isDigit_iff_toNat.mp h).2
      change c.val.toNat ≤ 57 at hhigh
      omega
    · exact absurd hlow (by decide)
  have hword : ∀ w : String, w.toList.head? ≠ some c →
      String.ofList ((c :: cs).map Char.toLower) ≠ w := by
    rintro w hw rfl
    rw [String.toList_ofList, List.map_cons, hlower] at hw
    exact hw rfl
  unfold readFloat?
  rw [hsplit]
  dsimp only
  rw [if_neg (hword "nan" fun h => hne 'n' (by decide) (by decide) (Option.some.inj h).symm),
    if_neg]
  rintro (h | h)
  · exact hword "inf" (fun h => hne 'i' (by decide) (by decide) (Option.some.inj h).symm) h
  · exact hword "infinity" (fun h => hne 'i' (by decide) (by decide) (Option.some.inj h).symm) h

/-- **Digits with a fraction or an exponent are read as a float**, and nothing is left. -/
theorem readDecimal?_parts {ds tail : List Char} {fraction : Option (List Char)} {e : Int}
    (hds : ∀ c ∈ ds, c.isDigit = true)
    (hfraction : ∀ fs, fraction = some fs → ∀ c ∈ fs, c.isDigit = true)
    (hne : ds ++ fraction.getD [] ≠ []) (hvalue : readExponent? tail = some e)
    (hmark : ∀ c, tail.head? = some c → c = 'e' ∨ c = 'E') :
    readDecimal? false (ds ++ (fractionText fraction ++ tail)) =
      some (floatOfDecimal false (digitsValue (ds ++ fraction.getD []))
        (e - (fraction.getD []).length)) := by
  have htail : ∀ c, tail.head? = some c → c.isDigit = false := by
    intro c hc
    rcases hmark c hc with rfl | rfl
    · rfl
    · rfl
  have hsome : (ds.isEmpty && (fraction.getD []).isEmpty) = false := by
    rw [← Bool.not_eq_true, Bool.and_eq_true, List.isEmpty_iff, List.isEmpty_iff]
    exact fun h => hne (List.append_eq_nil_iff.mpr h)
  have hstop : ∀ c, (fractionText fraction ++ tail).head? = some c → c.isDigit = false := by
    cases fraction with
    | none => exact htail
    | some fs =>
        intro c hc
        cases hc
        rfl
  obtain ⟨htake, hdrop⟩ := takeWhile_append_of_stop hds hstop
  have hread : readDecimal? false (ds ++ (fractionText fraction ++ tail)) =
      if ds.isEmpty && (fraction.getD []).isEmpty then none
      else (readExponent? tail).map fun e =>
        floatOfDecimal false (digitsValue (ds ++ fraction.getD [])) (e - (fraction.getD []).length) := by
    unfold readDecimal?
    rw [htake, hdrop]
    cases fraction with
    | none =>
        -- What follows is no point: it is nothing, or the mark of an exponent.
        cases tail with
        | nil => rfl
        | cons c rest =>
            rcases hmark c rfl with rfl | rfl
            · rfl
            · rfl
    | some fs =>
        obtain ⟨htake, hdrop⟩ := takeWhile_append_of_stop (hfraction fs rfl) htail
        simp only [fractionText, List.cons_append, htake, hdrop]
        rfl
  rw [hread, hsome, hvalue]
  rfl

theorem isDigit_of_mem_dropUnderscores {cs : List Char} (h : ∀ c ∈ cs, isNumberChar c = true) :
    ∀ c ∈ dropUnderscores cs, c.isDigit = true := by
  intro c hc
  obtain ⟨hmem, hplain⟩ := List.mem_filter.mp hc
  have hnumber := h c hmem
  unfold isNumberChar at hnumber
  rw [Bool.or_eq_true, beq_iff_eq] at hnumber
  exact hnumber.resolve_right (bne_iff_ne.mp hplain)

theorem dropUnderscores_fractionText (fraction : Option (List Char)) :
    dropUnderscores (fractionText fraction) = fractionText (fraction.map dropUnderscores) := by
  cases fraction with
  | none => rfl
  | some ds => exact dropUnderscores_cons (by decide) ds

/-- Digits are read as the integer they stand for. -/
theorem readWord?_digits {ds : List Char} (hds : ∀ c ∈ ds, c.isDigit = true) (hne : ds ≠ []) :
    readWord? ds = narrow? (digitsValue ds) := by
  have hsign : IsSign [] ds := by
    refine .inl ⟨rfl, fun h => ?_, fun h => ?_⟩
    · exact absurd (hds '+' (List.mem_of_mem_head? h)) (by decide)
    · exact absurd (hds '-' (List.mem_of_mem_head? h)) (by decide)
  have hsplit : splitSign ds = (false, ds) := hsign.splitSign_append
  have hall : ds.all Char.isDigit = true := List.all_eq_true.mpr hds
  have hsome : ds.isEmpty = false := List.isEmpty_eq_false_iff.mpr hne
  unfold readWord?
  rw [hsplit]
  simp only [hall, hsome, Bool.not_true, Bool.or_self, Bool.false_eq_true, if_false]

/-- The digits of a number, before the point and behind it. -/
def numberDigits (whole : List Char) (fraction : Option (List Char)) : List Char :=
  dropUnderscores whole ++ dropUnderscores (fraction.getD [])

variable {c : Char} {cs whole after tail : List Char} {fraction : Option (List Char)}
  {power : Option (Int × Nat)}

theorem IsPower.eq_nil (h : IsPower none tail) : tail = [] := List.length_eq_zero_iff.mp h.length

/-- **A number with a fraction or an exponent is read as a float**, whatever its digits are. -/
theorem readFloat?_number (hwhole : ∀ c ∈ whole, isNumberChar c = true)
    (hfraction : ∀ fs, fraction = some fs → ∀ c ∈ fs, isNumberChar c = true)
    (hpower : IsPower power tail) (hne : numberDigits whole fraction ≠ []) :
    readFloat? (dropUnderscores (whole ++ (fractionText fraction ++ tail))) =
      some (floatOfDecimal false (digitsValue (numberDigits whole fraction))
        ((power.map Prod.fst).getD 0 - (dropUnderscores (fraction.getD [])).length)) := by
  have hdigits := isDigit_of_mem_dropUnderscores hwhole
  have hplaces : ∀ fs, fraction.map dropUnderscores = some fs → ∀ c ∈ fs, c.isDigit = true := by
    intro fs hfs
    obtain ⟨ds, hds, rfl⟩ := Option.map_eq_some_iff.mp hfs
    exact isDigit_of_mem_dropUnderscores (hfraction ds hds)
  have hgetD : (fraction.map dropUnderscores).getD [] = dropUnderscores (fraction.getD []) := by
    cases fraction with
    | none => rfl
    | some ds => rfl
  have hread := readDecimal?_parts hdigits hplaces (by rw [hgetD]; exact hne) hpower.value
    hpower.mark
  rw [hgetD] at hread
  rw [dropUnderscores_append, dropUnderscores_append, dropUnderscores_fractionText, hpower.plain,
    numberDigits, ← hread]
  -- The first character is a digit, or the point if there is none before it.
  cases hwhole : dropUnderscores whole with
  | cons c cs => exact readFloat?_cons (.inl (hdigits c (by simp [hwhole]))) _
  | nil =>
      cases fraction with
      | some fs => exact readFloat?_cons (.inr rfl) _
      | none => exact absurd (by rw [numberDigits, hwhole]; rfl) hne

/-! ## §4. Numbers. -/

/-- The value of a number: of its digits, of its exponent, and less a power of ten for each digit
behind the point. -/
def numberValue (whole : List Char) (fraction : Option (List Char)) (power : Option (Int × Nat)) :
    Except SyntaxFault Token :=
  if fraction.isSome || power.isSome then
    .ok (.float (floatOfDecimal false (digitsValue (numberDigits whole fraction))
      ((power.map Prod.fst).getD 0 - (dropUnderscores (fraction.getD [])).length)))
  else
    match narrow? (digitsValue (dropUnderscores whole)) with
    | some n => .ok (.int n)
    | none => .error (.wideInteger (String.ofList (dropUnderscores whole)))

/-- `scanNumber` takes the parts of a number and gives its value. -/
theorem scanNumber_eq
    (hfraction : readFraction ((c :: cs).dropWhile isNumberChar) = fraction)
    (hleft : (c :: cs).dropWhile isNumberChar = fractionText fraction ++ after)
    (hpower : IsPower (readPower after) tail) :
    scanNumber c cs =
      (numberValue ((c :: cs).takeWhile isNumberChar) fraction (readPower after)).map
        fun t => ⟨t, ((c :: cs).takeWhile isNumberChar ++
          (fractionText fraction ++ tail)).length - 1⟩ := by
  have hpointed : ((c :: cs).takeWhile isNumberChar).length +
      (fraction.map fun ds => ds.length + 1).getD 0 =
        ((c :: cs).takeWhile isNumberChar ++ fractionText fraction).length := by
    rw [List.length_append]
    cases fraction with
    | none => rfl
    | some ds => rfl
  have hdrop : (c :: cs).drop ((c :: cs).takeWhile isNumberChar ++ fractionText fraction).length =
      after := by
    have hbehind : ∀ {text front back : List Char}, text = front ++ back →
        text.drop front.length = back := fun h => h ▸ List.drop_left
    exact hbehind (by rw [List.append_assoc, ← hleft, List.takeWhile_append_dropWhile])
  have hlength : ((c :: cs).takeWhile isNumberChar ++ (fractionText fraction ++ tail)).length =
      ((c :: cs).takeWhile isNumberChar ++ fractionText fraction).length +
        ((readPower after).map Prod.snd).getD 0 := by
    rw [← List.append_assoc, List.length_append, hpower.length]
  unfold scanNumber
  simp only [hfraction, hpointed, hdrop, hlength]
  unfold numberValue
  cases readPower after with
  | some power =>
      rw [Option.isSome_some, Bool.or_true, if_pos rfl]
      rfl
  | none =>
      cases fraction with
      | some ds =>
          simp only [Option.isSome_some, Bool.true_or, if_true, Option.map_none, Option.getD_none,
            Int.zero_sub]
          rfl
      | none =>
          simp only [Option.isSome_none, Bool.or_self, Bool.false_eq_true, if_false,
            Option.getD_none, dropUnderscores_nil, List.append_nil]
          cases narrow? (digitsValue (dropUnderscores ((c :: cs).takeWhile isNumberChar))) with
          | some n => rfl
          | none => rfl

/-- A digit begins a number, and a point does before a digit. -/
def BeginsNumber (c : Char) (cs : List Char) : Prop :=
  c.isDigit = true ∨ c = '.' ∧ cs.head?.any Char.isDigit = true

/-- What begins as a number has a digit before or behind the point. -/
theorem BeginsNumber.numberDigits_ne_nil (h : BeginsNumber c cs) :
    numberDigits ((c :: cs).takeWhile isNumberChar)
      (readFraction ((c :: cs).dropWhile isNumberChar)) ≠ [] := by
  have hkept : ∀ {d : Char} {ds : List Char}, d.isDigit = true →
      dropUnderscores ((d :: ds).takeWhile isNumberChar) ≠ [] := by
    intro d ds hd
    have hplain : d ≠ '_' := by
      rintro rfl
      exact absurd hd (by decide)
    rw [List.takeWhile_cons_of_pos (isNumberChar_of_isDigit hd), dropUnderscores_cons hplain]
    exact List.cons_ne_nil _ _
  unfold numberDigits
  rcases h with hdigit | ⟨rfl, hdigit⟩
  · exact List.append_ne_nil_of_left_ne_nil (hkept hdigit) _
  · obtain ⟨d, hd, hdigit⟩ := (Option.any_eq_true _ _).mp hdigit
    obtain ⟨ds, rfl⟩ := List.head?_eq_some_iff.mp hd
    have hfraction : readFraction (('.' :: d :: ds).dropWhile isNumberChar) =
        some ((d :: ds).takeWhile isNumberChar) := by
      show readFraction ('.' :: d :: ds) = _
      rw [readFraction, isNameStart_of_isDigit hdigit]
      rfl
    rw [hfraction]
    exact List.append_ne_nil_of_right_ne_nil _ (hkept hdigit)

theorem narrow?_natCast_eq_none_iff {n : Nat} : narrow? (n : Int) = none ↔ 2 ^ 63 - 1 < n := by
  rw [narrow?_eq_none_iff]
  unfold minWord maxWord
  omega

/-- A number is refused if it is an integer that is too large. -/
theorem numberValue_eq_error_iff {f : SyntaxFault} :
    numberValue whole fraction power = .error f ↔
      fraction = none ∧ power = none ∧ 2 ^ 63 - 1 < digitsValue (dropUnderscores whole) ∧
        f = .wideInteger (String.ofList (dropUnderscores whole)) := by
  rw [← narrow?_natCast_eq_none_iff]
  unfold numberValue
  cases fraction with
  | some ds => simp
  | none =>
      cases power with
      | some power => simp
      | none =>
          cases narrow? (digitsValue (dropUnderscores whole)) with
          | some n => simp
          | none => simp [eq_comm]

end Fanout.Expr
