/-
  Fanout.Proofs.Expr.Kept
  ───────────────────────
  **Properties of points in time and durations that evaluation keeps.**

  No literal is a point in time or a duration.  They come into a computation
  through names and through the function that reads timestamps, and only
  operators and functions make new ones: attributes, methods, comparisons
  and characters of texts are other values.

    • `plain_of_parse` — a parsed tree has only plain literals,
    • `Untimed` — outcomes that are no times, with those of numbers, texts
      and methods,
    • `Kept` — a property that operators and functions keep,
    • `Kept.eval`, `Kept.evaluate` — every value of an expression has it, if
      the bound values have it.
-/
import Fanout.Proofs.Expr.Height
import Fanout.Proofs.Extreme

namespace Fanout.Expr

open Phrase Fanout.Number

/-! ## §1. Values that are no times. -/

/-- The value is no point in time and no duration. -/
def Timeless (v : Value) : Prop := v.kind ≠ .dateTime ∧ v.kind ≠ .duration

instance (v : Value) : Decidable (Timeless v) := by
  unfold Timeless
  infer_instance

@[simp] theorem timeless_none : Timeless .none := by decide

@[simp] theorem timeless_bool (b : Bool) : Timeless (.bool b) := by simp [Timeless, Value.kind]

@[simp] theorem timeless_int (n : Int64) : Timeless (.int n) := by simp [Timeless, Value.kind]

@[simp] theorem timeless_float (x : Float) : Timeless (.float x) := by simp [Timeless, Value.kind]

@[simp] theorem timeless_str (s : String) : Timeless (.str s) := by simp [Timeless, Value.kind]

@[simp] theorem timeless_builtin (f : Builtin) : Timeless (.builtin f) := by
  simp [Timeless, Value.kind]

/-- What comes of a computation, if anything does, is no time. -/
def Untimed (o : Outcome Value) : Prop := ∀ v, o = .ok v → Timeless v

@[simp] theorem untimed_error (e : EvalError) : Untimed (.error e) := fun v h => by cases h

@[simp] theorem untimed_ok {v : Value} : Untimed (.ok v) ↔ Timeless v :=
  ⟨fun h => h v rfl, fun h w hw => by cases hw; exact h⟩

theorem untimed_ite {c : Prop} [Decidable c] {o p : Outcome Value} (ho : Untimed o)
    (hp : Untimed p) : Untimed (if c then o else p) := by
  split
  · exact ho
  · exact hp

/-! ## §2. Computations that make no times. -/

theorem untimed_narrowed (operation : Overflowing) (n : Int) :
    Untimed (narrowed operation n) := by
  unfold narrowed
  split <;> simp

theorem untimed_wordOfFloat (operation : Overflowing) (x : Float) :
    Untimed (wordOfFloat operation x) := by
  unfold wordOfFloat
  split
  · exact untimed_narrowed _ _
  · simp

theorem untimed_floatOperation (op : BinaryOp) (x y : Float) :
    Untimed (floatOperation op x y) := by
  have hdivided : ∀ z, Untimed (if isZero y then .error .divisionByZero else .ok (.float z)) :=
    fun z => untimed_ite (by simp) (by simp)
  cases op with
  | add | sub | mul => exact untimed_ok.mpr (timeless_float _)
  | div | floorDiv | mod => exact hdivided _
  | pow => exact untimed_ite (by simp) (by simp)

theorem untimed_integerOperation (op : BinaryOp) (x y : Int64) :
    Untimed (integerOperation op x y) := by
  cases op with
  | add | sub | mul => exact untimed_narrowed _ _
  | div => exact untimed_floatOperation .div _ _
  | floorDiv =>
      refine untimed_ite (by simp) ?_
      split <;> simp
  | mod =>
      refine untimed_ite (by simp) ?_
      split <;> simp
  | pow =>
      refine untimed_ite ?_ (untimed_floatOperation .pow _ _)
      unfold integerPower
      split <;> simp

theorem untimed_numericOperation (op : BinaryOp) (x y : Numeric) :
    Untimed (numericOperation op x y) := by
  unfold numericOperation
  split
  · exact untimed_integerOperation op _ _
  · exact untimed_floatOperation op _ _

theorem untimed_characterAt (target position : Value) : Untimed (characterAt target position) := by
  unfold characterAt
  split
  · refine untimed_ite (by simp) ?_
    split <;> simp
  · simp

theorem untimed_attributeOf (v : Value) (attr : String) : Untimed (attributeOf v attr) := by
  unfold attributeOf
  split <;> simp

theorem untimed_textMethod (s : String) (m : Method) (args : List Value) :
    Untimed (textMethod s m args) := by
  unfold textMethod
  split
  · simp
  · split <;> simp

theorem untimed_writeTimeBy (t : Calendar.DateTime) (args : List Value) :
    Untimed (writeTimeBy t args) := by
  unfold writeTimeBy
  split
  · unfold writeTime
    split <;> simp
  · simp
  · simp

/-- No method makes a time. -/
theorem untimed_callMethod (v : Value) (name : String) (args : List Value) :
    Untimed (callMethod v name args) := by
  have hcount : ∀ {m takes} {o : Outcome Value}, Untimed o → Untimed (withCount m takes args o) :=
    fun ho => untimed_ite ho (by simp)
  have hseconds : ∀ d, Untimed (totalSeconds d) := by
    intro d
    unfold totalSeconds
    split <;> simp
  unfold callMethod
  split
  · exact hcount (by simp)
  · exact hcount (by simp)
  · exact hcount (untimed_writeTimeBy _ args)
  · exact hcount (hseconds _)
  · exact hcount (by simp)
  · exact hcount (by simp)
  · exact hcount (by simp)
  · exact untimed_textMethod _ _ args
  · simp

theorem untimed_toInteger (v : Value) : Untimed (toInteger v) := by
  unfold toInteger
  split
  · simp
  · simp
  · exact untimed_wordOfFloat _ _
  · split <;> simp
  · simp

theorem untimed_toFloat (v : Value) : Untimed (toFloat v) := by
  unfold toFloat
  split
  · split <;> simp
  · simp
  · simp

theorem untimed_lengthOf (v : Value) : Untimed (lengthOf v) := by
  unfold lengthOf
  split <;> simp

theorem untimed_rounded (x : Numeric) (places : Option Value) : Untimed (rounded x places) := by
  unfold rounded
  split
  · simp
  · exact untimed_wordOfFloat _ _
  · split
    · simp
    · exact untimed_ite (by simp) (by simp)
  · simp

/-- **Of the functions only those that read a timestamp, take a size or choose among values give
times.** -/
theorem untimed_callBuiltin {f : Builtin} (h : f ∉ [Builtin.ts, .abs, .min, .max])
    (args : List Value) : Untimed (callBuiltin f args) := by
  have hone : ∀ {f} {body : Value → Outcome Value}, (∀ v, Untimed (body v)) →
      Untimed (withOne f args body) := by
    intro f body hbody
    unfold withOne
    split
    · exact hbody _
    · simp
  have hround : ∀ v places, Untimed (callBuiltin.roundValue v places) := by
    intro v places
    unfold callBuiltin.roundValue
    split
    · exact untimed_rounded _ _
    · simp
  cases f with
  | ts | abs | min | max => exact absurd (by decide) h
  | str => exact hone fun v => by simp
  | int => exact hone untimed_toInteger
  | float => exact hone untimed_toFloat
  | bool => exact hone fun v => by simp
  | len => exact hone untimed_lengthOf
  | round =>
      unfold callBuiltin
      dsimp only
      split
      · exact hround _ _
      · exact hround _ _
      · simp

/-! ## §3. Literals. -/

/-- Trees whose literals are no times. -/
inductive Plain : Tree → Prop where
  | literal {v : Value} (h : Timeless v) : Plain (.literal v)
  | name (n : String) : Plain (.name n)
  | unary (op : UnaryOp) {x : Tree} (operand : Plain x) : Plain (.unary op x)
  | binary (op : BinaryOp) {l r : Tree} (left : Plain l) (right : Plain r) : Plain (.binary op l r)
  | both {l r : Tree} (left : Plain l) (right : Plain r) : Plain (.both l r)
  | either {l r : Tree} (left : Plain l) (right : Plain r) : Plain (.either l r)
  | compare {x : Tree} {rest : List (CompareOp × Tree)} (first : Plain x)
      (others : ∀ p ∈ rest, Plain p.2) : Plain (.compare x rest)
  | choose {cond yes no : Tree} (condition : Plain cond) (whenTrue : Plain yes)
      (otherwise : Plain no) : Plain (.choose cond yes no)
  | call {f : Tree} {args : List Tree} (callee : Plain f) (arguments : ∀ x ∈ args, Plain x) :
      Plain (.call f args)
  | attr {x : Tree} (receiver : Plain x) (attr : String) : Plain (.attribute x attr)
  | index {x i : Tree} (target : Plain x) (position : Plain i) : Plain (.index x i)

/-- The phrases that open a level stand for such trees. -/
structure PlainWithin (inner : Inner) : Prop where
  expression : ∀ {w : List Token} {x : Tree}, inner.expression w x → Plain x
  negation : ∀ {w : List Token} {x : Tree}, inner.negation w x → Plain x
  signed : ∀ {w : List Token} {x : Tree}, inner.signed w x → Plain x

section Phrases

variable {inner : Inner} {w : List Token} {x : Tree}

theorem plain_chain {ω : Type} {signs : List (Symbol × ω)} {node : ω → Tree → Tree → Tree}
    {Operand : Form} (hoperand : ∀ w x, Operand w x → Plain x)
    (hnode : ∀ op l r, Plain l → Plain r → Plain (node op l r))
    (h : Chain signs node Operand w x) : Plain x := by
  induction h with
  | single operand => exact hoperand _ _ operand
  | joined _ _ right ih => exact hnode _ _ _ ih (hoperand _ _ right)

theorem plain_operations {Operand : Form} (hoperand : ∀ w x, Operand w x → Plain x)
    {more : List (CompareOp × Tree)} (h : Operations compareSigns Operand w more) :
    ∀ p ∈ more, Plain p.2 := by
  induction h with
  | none => exact fun p hp => absurd hp List.not_mem_nil
  | more _ operand _ ih => exact List.forall_mem_cons.mpr ⟨hoperand _ _ operand, ih⟩

theorem plain_arguments (hi : PlainWithin inner) {xs : List Tree} (h : Arguments inner w xs) :
    ∀ x ∈ xs, Plain x := by
  induction h with
  | last argument | lastWithComma argument =>
      exact List.forall_mem_singleton.mpr (hi.expression argument)
  | more argument _ ih => exact List.forall_mem_cons.mpr ⟨hi.expression argument, ih⟩

theorem plain_postfixed (hi : PlainWithin inner) (h : Postfix inner w x) : Plain x := by
  induction h with
  | operand operand =>
      cases operand with
      | name n => exact .name n
      | parenthesised inside => exact hi.expression inside
      | _ => exact .literal (by simp)
  | attached _ suffix ih =>
      cases suffix with
      | callWithout => exact .call ih fun x hx => absurd hx List.not_mem_nil
      | call arguments => exact .call ih (plain_arguments hi arguments)
      | attr n => exact .attr ih n
      | index position => exact .index ih (hi.expression position)

theorem plain_signed (hi : PlainWithin inner) (h : Signed inner w x) : Plain x := by
  cases h with
  | unsigned power =>
      cases power with
      | base base => exact plain_postfixed hi base
      | raised base exponent => exact .binary _ (plain_postfixed hi base) (hi.signed exponent)
  | sign _ operand => exact .unary _ (hi.signed operand)

theorem plain_sum (hi : PlainWithin inner) (h : Phrase.Sum inner w x) : Plain x := by
  have hproduct : ∀ v y, Product inner v y → Plain y := fun _ _ =>
    plain_chain (fun _ _ hs => plain_signed hi hs) fun op _ _ hl hr => .binary op hl hr
  exact plain_chain hproduct (fun op _ _ hl hr => .binary op hl hr) h

theorem plain_negation (hi : PlainWithin inner) (h : Negation inner w x) : Plain x := by
  cases h with
  | comparison comparison =>
      cases comparison with
      | single operand => exact plain_sum hi operand
      | chain first others _ =>
          exact .compare (plain_sum hi first) (plain_operations (fun _ _ hs => plain_sum hi hs) others)
  | not operand => exact .unary _ (hi.negation operand)

theorem plain_disjunction (hi : PlainWithin inner) (h : Disjunction inner w x) : Plain x := by
  have hconjunction : ∀ v y, Conjunction inner v y → Plain y := fun _ _ =>
    plain_chain (fun _ _ hn => plain_negation hi hn) fun _ _ _ hl hr => .both hl hr
  exact plain_chain hconjunction (fun _ _ _ hl hr => .either hl hr) h

theorem plain_expression (hi : PlainWithin inner) (h : Expression inner w x) : Plain x := by
  cases h with
  | plain disjunction => exact plain_disjunction hi disjunction
  | choice whenTrue condition otherwise =>
      exact .choose (plain_disjunction hi condition) (plain_disjunction hi whenTrue)
        (hi.expression otherwise)

end Phrases

/-- No level brings in a time. -/
theorem plainWithin_phrases : ∀ n, PlainWithin (phrases n)
  | 0 => ⟨fun h => absurd h id, fun h => absurd h id, fun h => absurd h id⟩
  | n + 1 =>
    have hi := plainWithin_phrases n
    ⟨plain_expression hi, plain_negation hi, plain_signed hi⟩

/-- **The literals of a parsed tree are no times.** -/
theorem plain_of_parse {text : String} {x : Tree} (h : parse text = .ok x) : Plain x := by
  obtain ⟨w, hw⟩ := exists_phrase_of_parse h
  exact (plainWithin_phrases maxNesting).expression hw

/-! ## §4. Evaluation. -/

/-- A property of points in time and durations that operators and functions keep. -/
structure Kept (P : Value → Prop) : Prop where
  /-- It says nothing of other values. -/
  timeless : ∀ {v}, Timeless v → P v
  /-- Operators before an operand keep it. -/
  unary : ∀ {op x v}, P x → unaryOperation op x = .ok v → P v
  /-- Operators between operands keep it. -/
  binary : ∀ {op x y v}, P x → P y → binaryOperation op x y = .ok v → P v
  /-- Functions keep it. -/
  function : ∀ {f args v}, (∀ a ∈ args, P a) → callBuiltin f args = .ok v → P v

/-- What a computation in two steps gives comes from what the first one gives. -/
theorem exists_of_bind_eq_ok {α β : Type} {o : Outcome α} {next : α → Outcome β} {y : β}
    (h : (o >>= next) = .ok y) : ∃ x, o = .ok x ∧ next x = .ok y := by
  cases o with
  | error e => cases h
  | ok x => exact ⟨x, rfl, h⟩

section Evaluation

variable {P : Value → Prop} {b : Bindings} {x : Tree} {v : Value}

theorem Kept.ofUntimed (hP : Kept P) {o : Outcome Value} (ho : Untimed o) (h : o = .ok v) : P v :=
  hP.timeless (ho v h)

theorem Kept.lookup (hP : Kept P) (hb : ∀ n v, b.get? n = some v → P v) {n : String}
    (h : lookup b n = .ok v) : P v := by
  unfold Expr.lookup at h
  split at h
  next hbound =>
    cases h
    exact hb _ _ hbound
  next =>
    split at h
    · cases h
      exact hP.timeless (timeless_builtin _)
    · cases h

/-- A chain of comparisons gives a truth value. -/
theorem untimed_chainHolds (rest : List (CompareOp × Tree)) (left : Value) :
    Untimed (chainHolds b left rest) := by
  induction rest generalizing left with
  | nil =>
      rw [chainHolds]
      simp
  | cons p rest ih =>
      intro v h
      rw [chainHolds] at h
      obtain ⟨right, -, h⟩ := exists_of_bind_eq_ok h
      obtain ⟨holds, -, h⟩ := exists_of_bind_eq_ok h
      split at h
      · exact ih right v h
      · cases h
        simp

theorem forall_of_evalAll {args : List Tree}
    (heval : ∀ x ∈ args, ∀ {v}, x.eval b = .ok v → P v) {vs : List Value}
    (h : evalAll b args = .ok vs) : ∀ v ∈ vs, P v := by
  induction args generalizing vs with
  | nil =>
      rw [evalAll] at h
      cases h
      exact fun v hv => absurd hv List.not_mem_nil
  | cons x args ih =>
      rw [evalAll] at h
      obtain ⟨v, hv, h⟩ := exists_of_bind_eq_ok h
      obtain ⟨vs', hvs, h⟩ := exists_of_bind_eq_ok h
      cases h
      exact List.forall_mem_cons.mpr ⟨heval x List.mem_cons_self hv,
        ih (fun y hy => heval y (List.mem_cons_of_mem x hy)) hvs⟩

/-- **The value of a tree has a property that is kept**, if its literals are no times and the bound
values have the property. -/
theorem Kept.eval (hP : Kept P) (hb : ∀ n v, b.get? n = some v → P v) (hx : Plain x) :
    ∀ {v}, x.eval b = .ok v → P v := by
  induction hx with
  | literal hv =>
      intro v h
      cases h
      exact hP.timeless hv
  | name n =>
      intro v h
      exact hP.lookup hb h
  | unary op _ ih =>
      intro v h
      rw [Tree.eval] at h
      obtain ⟨x, hx, h⟩ := exists_of_bind_eq_ok h
      exact hP.unary (ih hx) h
  | binary op _ _ ihl ihr =>
      intro v h
      rw [Tree.eval] at h
      obtain ⟨l, hl, h⟩ := exists_of_bind_eq_ok h
      obtain ⟨r, hr, h⟩ := exists_of_bind_eq_ok h
      exact hP.binary (ihl hl) (ihr hr) h
  | both _ _ ihl ihr =>
      intro v h
      rw [Tree.eval] at h
      obtain ⟨l, hl, h⟩ := exists_of_bind_eq_ok h
      split at h
      · exact ihr h
      · cases h
        exact ihl hl
  | either _ _ ihl ihr =>
      intro v h
      rw [Tree.eval] at h
      obtain ⟨l, hl, h⟩ := exists_of_bind_eq_ok h
      split at h
      · cases h
        exact ihl hl
      · exact ihr h
  | compare _ _ _ _ =>
      intro v h
      rw [Tree.eval] at h
      obtain ⟨l, -, h⟩ := exists_of_bind_eq_ok h
      exact hP.ofUntimed (untimed_chainHolds _ l) h
  | choose _ _ _ _ ihyes ihno =>
      intro v h
      rw [Tree.eval] at h
      obtain ⟨c, -, h⟩ := exists_of_bind_eq_ok h
      split at h
      · exact ihyes h
      · exact ihno h
  | @call f args _ _ ihf ihargs =>
      intro v h
      by_cases hmethod : ∃ x method, f = .attribute x method
      · obtain ⟨x, method, rfl⟩ := hmethod
        rw [Tree.eval] at h
        obtain ⟨vs, -, h⟩ := exists_of_bind_eq_ok h
        obtain ⟨r, -, h⟩ := exists_of_bind_eq_ok h
        exact hP.ofUntimed (untimed_callMethod r method vs) h
      · rw [Tree.eval] at h
        · obtain ⟨vs, hvs, h⟩ := exists_of_bind_eq_ok h
          obtain ⟨c, -, h⟩ := exists_of_bind_eq_ok h
          unfold callValue at h
          split at h
          · exact hP.function (forall_of_evalAll ihargs hvs) h
          · cases h
        · exact fun x method hf => hmethod ⟨x, method, hf⟩
  | attr _ attr _ =>
      intro v h
      rw [Tree.eval] at h
      obtain ⟨r, -, h⟩ := exists_of_bind_eq_ok h
      exact hP.ofUntimed (untimed_attributeOf r attr) h
  | index _ _ _ _ =>
      intro v h
      rw [Tree.eval] at h
      obtain ⟨t, -, h⟩ := exists_of_bind_eq_ok h
      obtain ⟨p, -, h⟩ := exists_of_bind_eq_ok h
      exact hP.ofUntimed (untimed_characterAt t p) h

/-- **So has the value of every text that is read as an expression.** -/
theorem Kept.evaluate (hP : Kept P) (hb : ∀ n v, b.get? n = some v → P v) {text : String}
    (h : evaluate text b = .ok v) : P v := by
  unfold Expr.evaluate at h
  obtain ⟨x, hx, h⟩ := exists_of_bind_eq_ok h
  exact hP.eval hb (plain_of_parse hx) h

end Evaluation

end Fanout.Expr
