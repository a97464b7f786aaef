/-
  Fanout.Proofs.Expr.Numeral
  ──────────────────────────
  **The text of a value read as an expression.**

  The text of an integer is digits, behind a sign if it is negative.  The
  digits are a token and the sign is an operator, so that the integer comes
  back as long as its amount is an integer value itself.  The smallest
  integer is the only one whose amount is not.

    • `parse_of_sign` — a sign and digits are parsed to a negated literal,
    • `evaluate_intText` — the text of an integer has the integer as its
      value, unless it is the smallest one,
    • `evaluate_text` — the same for all values without parts.
-/
import Fanout.Proofs.Expr.Word

namespace Fanout.Expr

open Fanout.Number

variable {b : Bindings}

/-! ## §1. Integers. -/

/-- A minus sign is a token of its own. -/
theorem lexFrom_minus (position : Nat) (cs : List Char) :
    lexFrom position ('-' :: cs) =
      match lexFrom (position + 1) cs with
      | .error e => .error e
      | .ok (items, stop) => .ok (⟨.symbol .minus, position⟩ :: items, stop) := by
  have hscan : scan '-' cs = .ok ⟨.symbol .minus, 0⟩ := rfl
  exact lexFrom_of_scan (by decide) hscan position

/-- **A sign and the digits of a number are parsed to the negation of the number.** -/
theorem parse_of_sign {text : String} {m : Int64} (hm : 0 ≤ m.toInt)
    (htext : text.toList = '-' :: intDigits m.toInt) :
    parse text = .ok (.unary .neg (.literal (.int m))) := by
  have hspaced : Spaced ([] ++ (intDigits m.toInt ++ [])) [.int m] :=
    .token (by simp) (spells_intDigits hm) (by intro c hc; cases hc) (.blank (by simp))
  rw [List.nil_append, List.append_nil] at hspaced
  obtain ⟨items, stop, hlex, hitems⟩ := lexFrom_of_spaced hspaced 1
  have hfits : Fits (.unary .neg (.literal (.int m))) :=
    .unary .neg (.of_primary rfl fun _ => .int m)
  have hparse := parseTokens_of_fits hfits ⟨⟨.symbol .minus, 0⟩ :: items, stop⟩
    (congrArg (Token.symbol .minus :: ·) hitems)
  unfold parse lex
  rw [htext, lexFrom_minus, hlex]
  exact hparse

/-- **The text of an integer has the integer as its value**, unless it is the smallest one. -/
theorem evaluate_intText {n : Int64} (hmin : n ≠ Int64.minValue) :
    evaluate (intText n.toInt) b = .ok (.int n) := by
  have htext : (intText n.toInt).toList = intDigits n.toInt := String.toList_ofList
  unfold evaluate
  by_cases hn : 0 ≤ n.toInt
  · have hparse : parse (intText n.toInt) = .ok (.literal (.int n)) :=
      parse_of_spells (by rw [htext]; exact spells_intDigits hn)
        (.of_primary rfl fun _ => .int n) rfl rfl
    rw [hparse]
    rfl
  · -- The amount of the number is an integer value, and negating it gives the number back.
    have hlow : minWord < n.toInt := by
      have hle := Int64.le_toInt n
      have hne : n.toInt ≠ minWord := fun he => hmin (Int64.toInt_inj.mp he)
      unfold minWord at hne ⊢
      omega
    obtain ⟨m, hm⟩ : ∃ m, narrow? (-n.toInt) = some m := by
      unfold narrow? minWord maxWord
      rw [if_pos (by unfold minWord at hlow; omega)]
      exact ⟨_, rfl⟩
    have hamount := toInt_of_narrow? hm
    have hdigits : intDigits n.toInt = '-' :: intDigits m.toInt := by
      unfold intDigits
      rw [if_pos (by omega), if_neg (by omega), hamount, Int.natAbs_neg]
    rw [parse_of_sign (m := m) (by omega) (htext.trans hdigits)]
    show narrowed .negation (-m.toInt) = _
    unfold narrowed
    rw [hamount, Int.neg_neg, narrow?_toInt]

/-- The amount of the smallest integer is no integer value. -/
theorem parse_minValue :
    parse (intText Int64.minValue.toInt) =
      .error (.malformed (.wideInteger "9223372036854775808") 1) := by
  have hlex : lex (intText Int64.minValue.toInt).toList =
      .error (.malformed (.wideInteger "9223372036854775808") 1) := by
    decide +kernel
  unfold parse
  rw [hlex]

/-! ## §2. Values without parts. -/

/-- The value is an integer, a truth value or the value for nothing. -/
def IsAtomic (v : Value) : Prop := v.kind = .none ∨ v.kind = .bool ∨ v.kind = .int

/-- **The text of such a value has the value as its own**, unless it is the smallest integer,
whose text has none. -/
theorem evaluate_text {v : Value} (h : IsAtomic v) (b : Bindings) :
    evaluate v.text b =
      if v = .int Int64.minValue
      then .error (.malformed (.wideInteger "9223372036854775808") 1) else .ok v := by
  cases v with
  | none =>
      have hlook : keywords.lookup "None" = some .noneWord := rfl
      exact (evaluate_word hlook).1 .none rfl
  | bool t =>
      cases t with
      | true =>
          have hlook : keywords.lookup "True" = some .trueWord := rfl
          exact (evaluate_word hlook).1 (.bool true) rfl
      | false =>
          have hlook : keywords.lookup "False" = some .falseWord := rfl
          exact (evaluate_word hlook).1 (.bool false) rfl
  | int n =>
      by_cases hmin : n = Int64.minValue
      · rw [hmin, if_pos rfl]
        show (do let tree ← parse (intText Int64.minValue.toInt); tree.eval b) = _
        rw [parse_minValue]
        rfl
      · rw [if_neg fun he => hmin (Value.int.inj he)]
        exact evaluate_intText hmin
  | float _ | str _ | dateTime _ | duration _ | builtin _ =>
      rcases h with h | h | h <;> cases h

end Fanout.Expr
