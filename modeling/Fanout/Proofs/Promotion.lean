/-
  Fanout.Proofs.Promotion
  ───────────────────────
  **Truth values count as 0 and 1.**

  An operator that takes a truth value takes the integer 0 or 1 for it, with
  the same result, or refuses both, in the same way but for the kinds that
  the wording names.  One operation is an exception: a text or a duration
  can be multiplied by an integer and not by a truth value.

    • `essence` — an outcome without the wording of a failure,
    • `binaryOperation_bool_of_numeric` — with a number on the other side
      there is no difference,
    • `binaryOperation_bool_refused`, `binaryOperation_int_refused` — what is
      refused if the other side is no number,
    • `essence_mul_int_ne` — what can be multiplied by an integer,
    • `countsAsInteger` — all operators together.
-/
import Fanout.Expr.Arithmetic

namespace Fanout.Expr

open Fanout.Number

/-! ## §1. Outcomes and operands. -/

/-- An outcome without its wording: the result, or the kind of failure. -/
def essence {α : Type} (o : Outcome α) : Except String α := o.mapError EvalError.category

/-- No number, and still an operand that an integer multiplies. -/
def Multiplied (v : Value) : Prop := v.kind = .str ∨ v.kind = .duration

theorem Multiplied.numeric? {v : Value} (h : Multiplied v) : v.numeric? = none := by
  cases v <;> first | rfl | (rcases h with h | h <;> cases h)

variable {v : Value} {y : Numeric}

/-! ## §2. Arithmetic. -/

/-- **With a number on the other side there is no difference.** -/
theorem binaryOperation_bool_of_numeric (op : BinaryOp) (b : Bool) (h : v.numeric? = some y) :
    binaryOperation op (.bool b) v = binaryOperation op (.int (ofBool b)) v ∧
      binaryOperation op v (.bool b) = binaryOperation op v (.int (ofBool b)) := by
  unfold binaryOperation
  rw [h]
  exact ⟨rfl, rfl⟩

/-- With anything else a truth value is refused, whatever the operator and on either side. -/
theorem binaryOperation_bool_refused (op : BinaryOp) (b : Bool) (h : v.numeric? = none) :
    binaryOperation op (.bool b) v = .error (.mismatch (.operands op .bool v.kind)) ∧
      binaryOperation op v (.bool b) = .error (.mismatch (.operands op v.kind .bool)) := by
  cases v with
  | bool | int | float => cases h
  | none | str | dateTime | duration | builtin => cases op <;> exact ⟨rfl, rfl⟩

/-- An integer is refused too, unless it multiplies. -/
theorem binaryOperation_int_refused {op : BinaryOp} (n : Int64) (h : v.numeric? = none)
    (hmul : ¬ (op = .mul ∧ Multiplied v)) :
    binaryOperation op (.int n) v = .error (.mismatch (.operands op .int v.kind)) ∧
      binaryOperation op v (.int n) = .error (.mismatch (.operands op v.kind .int)) := by
  cases v with
  | bool | int | float => cases h
  | none | dateTime | builtin => cases op <;> exact ⟨rfl, rfl⟩
  | str s => cases op <;> first | exact ⟨rfl, rfl⟩ | exact absurd ⟨rfl, .inl rfl⟩ hmul
  | duration d => cases op <;> first | exact ⟨rfl, rfl⟩ | exact absurd ⟨rfl, .inr rfl⟩ hmul

/-- The factors of a multiplication can change sides. -/
theorem binaryOperation_mul_comm_of_multiplied (n : Int64) (h : Multiplied v) :
    binaryOperation .mul v (.int n) = binaryOperation .mul (.int n) v := by
  cases v <;> first | rfl | (rcases h with h | h <;> cases h)

/-- **A multiplication by an integer gives a result or one that is too large**, and is no
mismatch. -/
theorem essence_mul_int_ne (n : Int64) (h : Multiplied v) :
    essence (binaryOperation .mul (.int n) v) ≠ .error "TypeMismatch" := by
  intro hmismatch
  have hother : ("Overflow" : String) ≠ "TypeMismatch" := by decide
  cases v with
  | str s =>
      change essence (repetition s n) = _ at hmismatch
      simp only [repetition] at hmismatch
      split at hmismatch
      · cases hmismatch
      · exact hother (Except.error.inj hmismatch)
  | duration d =>
      change essence (newDuration (d.mul? n)) = _ at hmismatch
      cases hd : d.mul? n with
      | none =>
          rw [hd] at hmismatch
          exact hother (Except.error.inj hmismatch)
      | some r =>
          rw [hd] at hmismatch
          cases hmismatch
  | none | bool | int | float | dateTime | builtin => rcases h with h | h <;> cases h

/-- **A truth value counts as an integer, unless an integer would multiply.** -/
theorem essence_iff (op : BinaryOp) (b : Bool) (v : Value) :
    (essence (binaryOperation op (.bool b) v) = essence (binaryOperation op (.int (ofBool b)) v) ↔
        ¬ (op = .mul ∧ Multiplied v)) ∧
      (essence (binaryOperation op v (.bool b)) = essence (binaryOperation op v (.int (ofBool b))) ↔
        ¬ (op = .mul ∧ Multiplied v)) := by
  cases hv : v.numeric? with
  | some y =>
      obtain ⟨hleft, hright⟩ := binaryOperation_bool_of_numeric op b hv
      have hnot : ¬ (op = .mul ∧ Multiplied v) := by
        rintro ⟨-, hmul⟩
        rw [hmul.numeric?] at hv
        cases hv
      exact ⟨iff_of_true (by rw [hleft]) hnot, iff_of_true (by rw [hright]) hnot⟩
  | none =>
      obtain ⟨hleft, hright⟩ := binaryOperation_bool_refused op b hv
      rw [hleft, hright]
      by_cases hmul : op = .mul ∧ Multiplied v
      · obtain ⟨rfl, hmul⟩ := hmul
        have hne := (essence_mul_int_ne (ofBool b) hmul).symm
        rw [binaryOperation_mul_comm_of_multiplied (ofBool b) hmul]
        exact ⟨iff_of_false hne fun h => h ⟨rfl, hmul⟩, iff_of_false hne fun h => h ⟨rfl, hmul⟩⟩
      · obtain ⟨hleft, hright⟩ := binaryOperation_int_refused (ofBool b) hv hmul
        rw [hleft, hright]
        exact ⟨iff_of_true rfl hmul, iff_of_true rfl hmul⟩

/-! ## §3. Comparison. -/

theorem equals_bool (b : Bool) (v : Value) :
    (Value.bool b).equals v = (Value.int (ofBool b)).equals v ∧
      v.equals (.bool b) = v.equals (.int (ofBool b)) := by
  cases v <;> exact ⟨rfl, rfl⟩

theorem order_bool (b : Bool) (v : Value) :
    (Value.bool b).order v = (Value.int (ofBool b)).order v ∧
      v.order (.bool b) = v.order (.int (ofBool b)) := by
  cases v <;> exact ⟨rfl, rfl⟩

/-- What a comparison comes to hangs on equality and order alone, but for the wording. -/
theorem essence_comparison_congr (op : CompareOp) {x y x' y' : Value}
    (hequals : x.equals y = x'.equals y') (horder : x.order y = x'.order y') :
    essence (comparison op x y) = essence (comparison op x' y') := by
  unfold comparison
  rw [hequals, horder]
  cases op <;> first | rfl | (cases x'.order y' <;> rfl)

/-! ## §4. All operators. -/

/-- How the operators take a truth value beside another operand. -/
structure CountsAsInteger (b : Bool) (v : Value) : Prop where
  /-- On the left of an arithmetic operator it is the integer, unless an integer would multiply. -/
  left_iff : ∀ op,
    essence (binaryOperation op (.bool b) v) = essence (binaryOperation op (.int (ofBool b)) v) ↔
      ¬ (op = .mul ∧ Multiplied v)
  /-- So it is on the right. -/
  right_iff : ∀ op,
    essence (binaryOperation op v (.bool b)) = essence (binaryOperation op v (.int (ofBool b))) ↔
      ¬ (op = .mul ∧ Multiplied v)
  /-- Where an integer would multiply, a truth value is refused on either side. -/
  refused : Multiplied v →
    binaryOperation .mul (.bool b) v = .error (.mismatch (.operands .mul .bool v.kind)) ∧
      binaryOperation .mul v (.bool b) = .error (.mismatch (.operands .mul v.kind .bool))
  /-- In a comparison it is the integer. -/
  compare_left : ∀ op,
    essence (comparison op (.bool b) v) = essence (comparison op (.int (ofBool b)) v)
  compare_right : ∀ op,
    essence (comparison op v (.bool b)) = essence (comparison op v (.int (ofBool b)))
  /-- Behind a sign it is the integer. -/
  unary : ∀ op, unaryOperation op (.bool b) = unaryOperation op (.int (ofBool b))
  /-- As an index it is the integer, and neither has characters. -/
  index : essence (characterAt v (.bool b)) = essence (characterAt v (.int (ofBool b)))
  target : essence (characterAt (.bool b) v) = essence (characterAt (.int (ofBool b)) v)

/-- **Truth values count as 0 and 1**: beside any other operand an operator gives the same result
for a truth value and for its integer, or fails for both with the same kind of failure.  The
exception is a multiplication with a text or a duration, which takes an integer and refuses a
truth value. -/
theorem countsAsInteger (b : Bool) (v : Value) : CountsAsInteger b v where
  left_iff op := (essence_iff op b v).1
  right_iff op := (essence_iff op b v).2
  refused h := binaryOperation_bool_refused .mul b h.numeric?
  compare_left op := essence_comparison_congr op (equals_bool b v).1 (order_bool b v).1
  compare_right op := essence_comparison_congr op (equals_bool b v).2 (order_bool b v).2
  unary op := by cases op <;> cases b <;> rfl
  index := by cases v <;> rfl
  target := rfl

/-- A text is repeated once by 1 and not at all by `True`; both are its second character. -/
theorem countsAsInteger_repeated :
    essence (binaryOperation .mul (.str "ab") (.bool true)) = .error "TypeMismatch" ∧
      essence (binaryOperation .mul (.str "ab") (.int 1)) = .ok (.str "ab") ∧
      essence (binaryOperation .mul (.str "ab") (.bool true)) ≠
        essence (binaryOperation .mul (.str "ab") (.int 1)) ∧
      essence (characterAt (.str "ab") (.bool true)) = .ok (.str "b") := by
  have hlaws := countsAsInteger true (.str "ab")
  have hrefused := (hlaws.refused (.inl rfl)).2
  refine ⟨by rw [hrefused]; rfl, by rfl, ?_, hlaws.index.trans (by rfl)⟩
  exact fun hsame => (hlaws.right_iff .mul).mp hsame ⟨rfl, .inl rfl⟩

end Fanout.Expr
