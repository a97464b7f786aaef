/-
  Fanout.Proofs.Expr.FloatText
  ────────────────────────────
  **The text of a finite float is an expression for it.**

  A numeral is one token: the digits end where the point or the mark of the
  exponent stands, and behind the point comes a digit, so that no attribute
  begins there.  A minus sign in front is an operator, and negating the
  float gives the other sign and the same bits below it, for zero as well.

    • `scan_text` — a numeral is read whole, as a float,
    • `parse_signed` — with a sign it is the negation of a literal,
    • `evaluate_floatText` — its value is the float,
    • `render_float` — so it is in a span.
-/
import Fanout.Proofs.Number.FloatText
import Fanout.Proofs.Template.ReadBack

namespace Fanout.Expr

open Fanout.Number Fanout.Text Fanout.Template

/-! ## §1. Numerals as tokens. -/

/-- Digits have no underscores. -/
theorem dropUnderscores_of_isDigit {ds : List Char} (h : ∀ c ∈ ds, c.isDigit = true) :
    dropUnderscores ds = ds := by
  refine List.filter_eq_self.mpr fun c hc => ?_
  rw [bne_iff_ne]
  rintro rfl
  exact absurd (h '_' hc) (by decide)

/-- An exponent is read whole. -/
theorem readPower_powerText (power : Option Int) :
    readPower (Numeral.powerText power) =
      power.map fun e => (e, (Numeral.powerText power).length) := by
  cases power with
  | none => rfl
  | some e =>
      have hdigits : ∀ c ∈ padZeros 2 e.natAbs, c.isDigit = true := fun c => isDigit_of_mem_padZeros
      have hread : (padZeros 2 e.natAbs).takeWhile Char.isDigit = padZeros 2 e.natAbs :=
        List.takeWhile_eq_self_iff.mpr hdigits
      have hne : (padZeros 2 e.natAbs).isEmpty = false :=
        List.isEmpty_eq_false_iff.mpr (padZeros_ne_nil 2 e.natAbs)
      have hsign : splitSign (exponentText e) = (decide (e < 0), padZeros 2 e.natAbs) := by
        unfold exponentText
        by_cases he : e < 0
        · rw [if_pos he, decide_eq_true he]
          rfl
        · rw [if_neg he, decide_eq_false he]
          rfl
      have hsize : (if decide (e < 0) = true then -(e.natAbs : Int) else e.natAbs) = e := by
        simp only [decide_eq_true_eq]
        split
        · omega
        · omega
      have hlength : (exponentText e).length = (padZeros 2 e.natAbs).length + 1 := rfl
      show readPower ('e' :: exponentText e) = some (e, (exponentText e).length + 1)
      unfold readPower
      simp only [true_or, if_true, hsign, hread, hne, Bool.false_eq_true, if_false,
        digitsValue_padZeros, hsize, hlength]
      congr 2
      omega

variable {n : Numeral}

/-- Digits end at the mark of the exponent. -/
theorem isNumberChar_head_powerText (power : Option Int) :
    ∀ c, (Numeral.powerText power).head? = some c → isNumberChar c = false := by
  intro c hc
  cases power with
  | none => cases hc
  | some e =>
      cases hc
      decide

/-- The digits before the point end there, or at the mark of the exponent. -/
theorem isNumberChar_head_pointText (fraction : List Char) (power : Option Int) :
    ∀ c, (Numeral.pointText fraction ++ Numeral.powerText power).head? = some c →
      isNumberChar c = false := by
  intro c hc
  cases fraction with
  | nil => exact isNumberChar_head_powerText power c hc
  | cons d ds =>
      cases hc
      decide

/-- The digits behind the point are read as a fraction. -/
theorem readFraction_text (n : Numeral) :
    readFraction (Numeral.pointText n.fraction ++ Numeral.powerText n.power) =
      if n.fraction = [] then none else some n.fraction := by
  have hdigits := n.isDigit_fraction
  cases hfraction : n.fraction with
  | nil =>
      rw [if_pos rfl]
      cases n.power with
      | none => rfl
      | some e => rfl
  | cons d ds =>
      rw [hfraction] at hdigits
      have hstart := isNameStart_of_isDigit (hdigits d List.mem_cons_self)
      have hread := (takeWhile_append_of_stop
        (fun c hc => isNumberChar_of_isDigit (hdigits c hc))
        (isNumberChar_head_powerText n.power)).1
      rw [if_neg (List.cons_ne_nil d ds)]
      show (if isNameStart d then none
        else some ((d :: ds ++ Numeral.powerText n.power).takeWhile isNumberChar)) = _
      rw [hstart, hread]
      rfl

/-- **A numeral is one token**, the float that it says. -/
theorem scan_text {c : Char} {cs : List Char} (h : n.text = c :: cs) :
    scan c cs = .ok ⟨.float (floatOfDecimal false n.digits n.exponent), cs.length⟩ := by
  have hfirst : c.isDigit = true := by
    obtain ⟨d, ds, hd, hdigit⟩ := n.exists_text_cons
    obtain ⟨rfl, -⟩ := List.cons.inj (h.symm.trans hd)
    exact hdigit
  have hnumber : ∀ d ∈ n.whole, isNumberChar d = true :=
    fun d hd => isNumberChar_of_isDigit (n.isDigit_whole d hd)
  obtain ⟨htake, hdrop⟩ := takeWhile_append_of_stop hnumber
    (isNumberChar_head_pointText n.fraction n.power)
  have hlength : cs.length + 1 = n.whole.length +
      ((Numeral.pointText n.fraction).length + (Numeral.powerText n.power).length) := by
    rw [← List.length_cons (a := c), ← h, Numeral.text, List.length_append, List.length_append]
  -- What the fraction gives, whether there is one or not.
  have hfraction := readFraction_text n
  have hpoint : ((if n.fraction = [] then none else some n.fraction).map
      fun ds => ds.length + 1).getD 0 = (Numeral.pointText n.fraction).length := by
    cases n.fraction with
    | nil => rfl
    | cons d ds => rfl
  have hplaces : (if n.fraction = [] then none else some n.fraction).getD [] = n.fraction := by
    cases n.fraction with
    | nil => rfl
    | cons d ds => rfl
  have hbehind : n.text.drop (n.whole.length + (Numeral.pointText n.fraction).length) =
      Numeral.powerText n.power := by
    rw [Numeral.text, ← List.append_assoc, ← List.length_append, List.drop_left]
  rw [scan_of_isNameChar (isNameChar_of_isNumberChar (isNumberChar_of_isDigit hfirst)),
    if_pos hfirst]
  unfold scanNumber
  rw [← h]
  unfold Numeral.text at *
  simp only [htake, hdrop, hfraction, hpoint, hplaces, hbehind, readPower_powerText,
    dropUnderscores_of_isDigit n.isDigit_whole, dropUnderscores_of_isDigit n.isDigit_fraction]
  cases hpower : n.power with
  | some e =>
      rw [hpower] at hlength
      simp only [Option.map_some, Numeral.digits, Numeral.exponent, hpower, Option.getD_some]
      congr 2
      omega
  | none =>
      have hne : n.fraction ≠ [] := n.marked.resolve_right (not_not.mpr hpower)
      rw [hpower] at hlength
      simp only [Option.map_none, if_neg hne, Option.isSome_some, if_true, Numeral.digits,
        Numeral.exponent, hpower, Option.getD_none, Int.zero_sub]
      congr 2
      have hnothing : (Numeral.powerText none).length = 0 := rfl
      omega

/-! ## §2. Numerals as expressions. -/

/-- The text of a numeral has one token. -/
theorem lexFrom_text (n : Numeral) (position : Nat) :
    ∃ stop, lexFrom position n.text =
      .ok ([⟨.float (floatOfDecimal false n.digits n.exponent), position⟩], stop) := by
  obtain ⟨c, cs, htext, hdigit⟩ := n.exists_text_cons
  have hc : isSeparator c = false :=
    isSeparator_of_isNameChar (isNameChar_of_isNumberChar (isNumberChar_of_isDigit hdigit))
  rw [htext, lexFrom_of_scan hc (scan_text htext)]
  dsimp only
  rw [List.drop_length, lexFrom]
  exact ⟨_, rfl⟩

/-- The expression that a numeral with a sign or without is. -/
def signedTree (negative : Bool) (x : Float) : Tree :=
  if negative then .unary .neg (.literal (.float x)) else .literal (.float x)

/-- **A numeral with a sign is the negation of a literal**, and without one the literal. -/
theorem parse_signed {text : String} {negative : Bool}
    (h : text.toList = signText negative ++ n.text) :
    parse text = .ok (signedTree negative (floatOfDecimal false n.digits n.exponent)) := by
  have hliteral : ∀ x : Float, Fits (.literal (.float x)) := fun x =>
    .of_primary rfl fun _ => .float x
  unfold parse lex
  cases negative with
  | false =>
      obtain ⟨stop, hlex⟩ := lexFrom_text n 0
      have hparse := parseTokens_of_fits (hliteral (floatOfDecimal false n.digits n.exponent))
        ⟨[⟨.float (floatOfDecimal false n.digits n.exponent), 0⟩], stop⟩ rfl
      have htext : text.toList = n.text := h
      rw [htext, hlex]
      exact hparse
  | true =>
      obtain ⟨stop, hlex⟩ := lexFrom_text n 1
      have hparse := parseTokens_of_fits
        (.unary .neg (hliteral (floatOfDecimal false n.digits n.exponent)))
        ⟨[⟨.symbol .minus, 0⟩, ⟨.float (floatOfDecimal false n.digits n.exponent), 1⟩], stop⟩ rfl
      have htext : text.toList = '-' :: n.text := h
      rw [htext, lexFrom_minus, hlex]
      exact hparse

variable {x : Float} {b : Bindings}

/-- **The text of a finite float has the float as its value**, with the sign of zero. -/
theorem evaluate_floatText (hx : IsFinite x) : evaluate (floatText x) b = .ok (.float x) := by
  have hbits := (magnitudeBits_lt_of_isFinite hx).le
  have hnumber : isNaN x = false := decide_eq_false (by omega)
  obtain ⟨n, htext, hvalue⟩ := exists_numeral hx
  have hsigned := ofMagnitudeBits_magnitudeBits hnumber
  unfold evaluate
  rw [parse_signed htext, hvalue]
  cases hsign : isNegative x with
  | false =>
      rw [hsign] at hsigned
      rw [hsigned]
      rfl
  | true =>
      rw [hsign, ← neg_ofMagnitudeBits hbits] at hsigned
      show Except.ok (Value.float (-ofMagnitudeBits false (magnitudeBits x))) = _
      rw [hsigned]

/-! ## §3. Floats in spans. -/

/-- **The text of a finite float stays a float.**  It is no integer, and read as an expression it
has the float as its value whatever is bound, so that a span into which it is put shows it
again. -/
theorem render_float (hx : IsFinite x) :
    readWord? (floatText x).toList = none ∧
      (∀ b, evaluate (floatText x) b = .ok (.float x)) ∧
      ∀ (b : Bindings) (name : String), isName name.toList = true → b.get? name = some (.float x) →
        ∀ firstLine,
          substitute (spanText ("$" ++ name)) firstLine b = .ok (spanText (floatText x)) ∧
            render (spanText ("$" ++ name)) firstLine b = .ok (floatText x) := by
  refine ⟨?_, fun b => evaluate_floatText hx, fun b name hname hget firstLine => ?_⟩
  · obtain ⟨n, htext, -⟩ := exists_numeral hx
    rw [htext]
    exact n.readWord?_text (isNegative x)
  · have hfilled := substitute_spanText hname hget firstLine
    have hends : EndsFirst (floatText x).toList :=
      endsFirst_of_not_mem (braceless_floatText x).noClosing
    refine ⟨hfilled, ?_⟩
    rw [render_of_substitute hfilled]
    show Except.ok (resolveSpans (spanText (floatText x)) b) = _
    rw [resolveSpans_spanText hends, evaluate_floatText hx]
    rfl

/-- Zero with a sign, and a number that is whole and so large that it has an exponent. -/
theorem render_float_zero :
    (IsFinite (zero true) ∧ IsFinite (floatOfInt (10 ^ 16)) ∧ isName "x".toList = true) ∧
      evaluate "-0.0" .empty = .ok (.float (zero true)) ∧
      evaluate "1e+16" .empty = .ok (.float (floatOfInt (10 ^ 16))) ∧
      readWord? "1e+16".toList = none ∧
      render (spanText "$x") 1 ⟨[("x", .float (zero true))]⟩ = .ok "-0.0" := by
  have hzero : IsFinite (zero true) := ⟨true, 0, -1074, by decide +kernel⟩
  have hlarge : IsFinite (floatOfInt (10 ^ 16)) :=
    ⟨false, 5000000000000000, 1, by decide +kernel⟩
  have hname : isName "x".toList = true := by decide
  have hzeroText : floatText (zero true) = "-0.0" := by decide +kernel
  have hlargeText : floatText (floatOfInt (10 ^ 16)) = "1e+16" := by decide +kernel
  obtain ⟨-, hvalue, hspan⟩ := render_float hzero
  obtain ⟨hword, hlargeValue, -⟩ := render_float hlarge
  rw [hzeroText] at hvalue hspan
  rw [hlargeText] at hword hlargeValue
  exact ⟨⟨hzero, hlarge, hname⟩, hvalue .empty, hlargeValue .empty, hword,
    (hspan ⟨[("x", .float (zero true))]⟩ "x" hname rfl 1).2⟩

end Fanout.Expr
