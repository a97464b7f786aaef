/-
  Fanout.Proofs.Expr.Phrase
  ─────────────────────────
  **The grammar of expressions.**

  For each form of phrase a relation says which tokens are a phrase of that
  form, and which tree the phrase stands for:

      EXPRESSION  = OR ["if" OR "else" EXPRESSION]
      OR          = AND {"or" AND}                    (left-nested)
      AND         = NOT {"and" NOT}                   (left-nested)
      NOT         = "not" NOT | COMPARISON
      COMPARISON  = SUM {("==" | "!=" | "<" | "<=" | ">" | ">=") SUM}     (flat)
      SUM         = PRODUCT {("+" | "-") PRODUCT}     (left-nested)
      PRODUCT     = SIGNED {("*" | "/" | "//" | "%") SIGNED}    (left-nested)
      SIGNED      = ("-" | "+") SIGNED | POWER
      POWER       = POSTFIX ["**" SIGNED]
      POSTFIX     = PRIMARY {"(" [ARGUMENTS] ")" | "." name | "[" EXPRESSION "]"}
      ARGUMENTS   = EXPRESSION {"," EXPRESSION} [","]
      PRIMARY     = int | float | str {str} | "True" | "False" | "None" | name
                  | "(" EXPRESSION ")"

  The relations take the phrases that open a level as a parameter, and
  `phrases n` are those in which never more than `n` levels are open at
  once.  Nothing here refers to a parser.

    • `Chain.exists_operations`, `Chain.append` — left-nesting,
      seen from the first operand,
    • `Suffixed` — the same for what is attached to an operand,
    • `beginsWithin_expression` and its kin — what a phrase can begin with.
-/
import Fanout.Expr.Token
import Fanout.Expr.Tree

namespace Fanout.Expr

/-- Lists of tokens with the trees they stand for. -/
abbrev Form := List Token → Tree → Prop

/-- The phrases that open a level. -/
structure Inner where
  /-- Whole expressions. -/
  expression : Form
  /-- Operands of `not`. -/
  negation : Form
  /-- Operands of signs, and of `**` on its right. -/
  signed : Form

namespace Phrase

/-! ## §1. Signs. -/

/-- How the operators that multiply are written. -/
def productSigns : List (Symbol × BinaryOp) :=
  [(.star, .mul), (.slash, .div), (.doubleSlash, .floorDiv), (.percent, .mod)]

/-- How the operators that add are written. -/
def sumSigns : List (Symbol × BinaryOp) := [(.plus, .add), (.minus, .sub)]

/-- How the operators that compare are written. -/
def compareSigns : List (Symbol × CompareOp) :=
  [(.eqEq, .eq), (.notEq, .ne), (.less, .lt), (.lessEq, .le), (.greater, .gt),
    (.greaterEq, .ge)]

/-- How conjunction is written. -/
def andSigns : List (Symbol × Unit) := [(.andWord, ())]

/-- How disjunction is written. -/
def orSigns : List (Symbol × Unit) := [(.orWord, ())]

/-- How the signs of an operand are written. -/
def unarySigns : List (Symbol × UnaryOp) := [(.minus, .neg), (.plus, .pos)]

/-! ## §2. Repetitions. -/

section Repetition

variable {ω : Type}

/-- Operands of one form with operators between them, joined from the left. -/
inductive Chain (signs : List (Symbol × ω)) (node : ω → Tree → Tree → Tree) (Operand : Form) :
    Form where
  /-- An operand alone. -/
  | single {w : List Token} {x : Tree} (operand : Operand w x) : Chain signs node Operand w x
  /-- One more operand behind an operator. -/
  | joined {l r : List Token} {x y : Tree} {s : Symbol} {op : ω}
      (left : Chain signs node Operand l x) (sign : (s, op) ∈ signs) (right : Operand r y) :
      Chain signs node Operand (l ++ .symbol s :: r) (node op x y)

/-- Operators, each with an operand of one form behind it. -/
inductive Operations (signs : List (Symbol × ω)) (Operand : Form) :
    List Token → List (ω × Tree) → Prop where
  /-- No operator. -/
  | none : Operations signs Operand [] []
  /-- An operator with its operand before others. -/
  | more {w v : List Token} {x : Tree} {rest : List (ω × Tree)} {s : Symbol} {op : ω}
      (sign : (s, op) ∈ signs) (operand : Operand w x) (others : Operations signs Operand v rest) :
      Operations signs Operand (.symbol s :: (w ++ v)) ((op, x) :: rest)

end Repetition

/-! ## §3. Operands. -/

/-- Literals, names and expressions in parentheses; texts beside each other are one. -/
inductive Primary (inner : Inner) : Form where
  | int (n : Int64) : Primary inner [.int n] (.literal (.int n))
  | float (x : Float) : Primary inner [.float x] (.literal (.float x))
  | texts (s : String) (more : List String) :
      Primary inner (.str s :: more.map .str) (.literal (.str (s ++ String.join more)))
  | true : Primary inner [.symbol .trueWord] (.literal (.bool true))
  | false : Primary inner [.symbol .falseWord] (.literal (.bool false))
  | none : Primary inner [.symbol .noneWord] (.literal .none)
  | name (n : String) : Primary inner [.ident n] (.name n)
  | parenthesised {w : List Token} {x : Tree} (inside : inner.expression w x) :
      Primary inner (.symbol .leftParen :: (w ++ [.symbol .rightParen])) x

/-- The arguments of a call, at least one; a comma may end them. -/
inductive Arguments (inner : Inner) : List Token → List Tree → Prop where
  | last {w : List Token} {x : Tree} (argument : inner.expression w x) : Arguments inner w [x]
  | lastWithComma {w : List Token} {x : Tree} (argument : inner.expression w x) :
      Arguments inner (w ++ [.symbol .comma]) [x]
  | more {w v : List Token} {x : Tree} {xs : List Tree} (argument : inner.expression w x)
      (others : Arguments inner v xs) : Arguments inner (w ++ .symbol .comma :: v) (x :: xs)

/-- What can be attached to an operand, with what it makes of the operand. -/
inductive Suffix (inner : Inner) : List Token → (Tree → Tree) → Prop where
  | callWithout : Suffix inner [.symbol .leftParen, .symbol .rightParen] fun x => .call x []
  | call {v : List Token} {args : List Tree} (arguments : Arguments inner v args) :
      Suffix inner (.symbol .leftParen :: (v ++ [.symbol .rightParen])) fun x => .call x args
  | attr (n : String) : Suffix inner [.symbol .dot, .ident n] fun x => .attribute x n
  | index {v : List Token} {i : Tree} (position : inner.expression v i) :
      Suffix inner (.symbol .leftBracket :: (v ++ [.symbol .rightBracket])) fun x => .index x i

/-- Operands with what is attached to them. -/
inductive Postfix (inner : Inner) : Form where
  | operand {w : List Token} {x : Tree} (operand : Primary inner w x) : Postfix inner w x
  | attached {w v : List Token} {x : Tree} {f : Tree → Tree} (operand : Postfix inner w x)
      (suffix : Suffix inner v f) : Postfix inner (w ++ v) (f x)

/-- Operands with or without an exponent. -/
inductive Power (inner : Inner) : Form where
  | base {w : List Token} {x : Tree} (base : Postfix inner w x) : Power inner w x
  | raised {w v : List Token} {x y : Tree} (base : Postfix inner w x)
      (exponent : inner.signed v y) :
      Power inner (w ++ .symbol .doubleStar :: v) (.binary .pow x y)

/-- Operands with or without signs. -/
inductive Signed (inner : Inner) : Form where
  | unsigned {w : List Token} {x : Tree} (power : Power inner w x) : Signed inner w x
  | sign {w : List Token} {x : Tree} {s : Symbol} {op : UnaryOp} (sign : (s, op) ∈ unarySigns)
      (operand : inner.signed w x) : Signed inner (.symbol s :: w) (.unary op x)

/-! ## §4. Expressions. -/

/-- Products. -/
abbrev Product (inner : Inner) : Form := Chain productSigns .binary (Signed inner)

/-- Sums. -/
abbrev Sum (inner : Inner) : Form := Chain sumSigns .binary (Product inner)

/-- Comparisons, all in one node. -/
inductive Comparison (inner : Inner) : Form where
  | single {w : List Token} {x : Tree} (operand : Sum inner w x) : Comparison inner w x
  | chain {w v : List Token} {x : Tree} {more : List (CompareOp × Tree)} (first : Sum inner w x)
      (others : Operations compareSigns (Sum inner) v more) (some : more ≠ []) :
      Comparison inner (w ++ v) (.compare x more)

/-- Negations. -/
inductive Negation (inner : Inner) : Form where
  | comparison {w : List Token} {x : Tree} (comparison : Comparison inner w x) :
      Negation inner w x
  | not {w : List Token} {x : Tree} (operand : inner.negation w x) :
      Negation inner (.symbol .notWord :: w) (.unary .not x)

/-- Conjunctions. -/
abbrev Conjunction (inner : Inner) : Form := Chain andSigns (fun _ => .both) (Negation inner)

/-- Disjunctions. -/
abbrev Disjunction (inner : Inner) : Form := Chain orSigns (fun _ => .either) (Conjunction inner)

/-- Whole expressions. -/
inductive Expression (inner : Inner) : Form where
  | plain {w : List Token} {x : Tree} (disjunction : Disjunction inner w x) :
      Expression inner w x
  | choice {w c v : List Token} {yes cond no : Tree} (whenTrue : Disjunction inner w yes)
      (condition : Disjunction inner c cond) (otherwise : inner.expression v no) :
      Expression inner (w ++ .symbol .ifWord :: (c ++ .symbol .elseWord :: v))
        (.choose cond yes no)

/-! ## §5. Levels. -/

/-- The phrases that open a level while never more than `n` levels are open at once. -/
def phrases : Nat → Inner
  | 0 => ⟨fun _ _ => False, fun _ _ => False, fun _ _ => False⟩
  | n + 1 =>
    let inner := phrases n
    ⟨Expression inner, Negation inner, Signed inner⟩

/-! ## §6. Repetitions from the front. -/

section Repetition

variable {ω : Type} {signs : List (Symbol × ω)} {node : ω → Tree → Tree → Tree} {Operand : Form}

/-- Operands joined from the left. -/
def joinLeft (node : ω → Tree → Tree → Tree) (first : Tree) (more : List (ω × Tree)) : Tree :=
  more.foldl (fun left p => node p.1 left p.2) first

theorem Operations.snoc {v r : List Token} {more : List (ω × Tree)} {s : Symbol} {op : ω} {y : Tree}
    (h : Operations signs Operand v more) (sign : (s, op) ∈ signs) (right : Operand r y) :
    Operations signs Operand (v ++ .symbol s :: r) (more ++ [(op, y)]) := by
  induction h with
  | none =>
      have h := Operations.more sign right Operations.none
      rw [List.append_nil] at h
      exact h
  | more sign' operand _ ih =>
      rw [List.cons_append, List.append_assoc]
      exact Operations.more sign' operand ih

/-- A chain is an operand and operators with operands behind it. -/
theorem Chain.exists_operations {w : List Token} {x : Tree} (h : Chain signs node Operand w x) :
    ∃ w₀ x₀ v more, w = w₀ ++ v ∧ Operand w₀ x₀ ∧ Operations signs Operand v more
      ∧ x = joinLeft node x₀ more := by
  induction h with
  | @single w x operand => exact ⟨w, x, [], [], by simp, operand, .none, rfl⟩
  | joined _ sign right ih =>
      obtain ⟨w₀, x₀, v, more, rfl, first, others, rfl⟩ := ih
      refine ⟨w₀, x₀, _, _, ?_, first, others.snoc sign right, ?_⟩
      · rw [List.append_assoc]
      · simp [joinLeft]

/-- Operators with operands behind a chain make it longer. -/
theorem Chain.append {v : List Token} {more : List (ω × Tree)}
    (others : Operations signs Operand v more) :
    ∀ {w : List Token} {x : Tree}, Chain signs node Operand w x →
      Chain signs node Operand (w ++ v) (joinLeft node x more) := by
  induction others with
  | none =>
      intro w x h
      rw [List.append_nil]
      exact h
  | more sign operand _ ih =>
      intro w x h
      have h' := ih (h.joined sign operand)
      rw [List.append_assoc] at h'
      exact h'

end Repetition

section Suffixes

variable {inner : Inner}

/-- What is made of an operand by what is attached to it. -/
inductive Suffixed (inner : Inner) : Tree → List Token → Tree → Prop where
  | none (x : Tree) : Suffixed inner x [] x
  | more {v r : List Token} {x y : Tree} {f : Tree → Tree} (suffix : Suffix inner v f)
      (others : Suffixed inner (f x) r y) : Suffixed inner x (v ++ r) y

theorem Suffixed.snoc {x y : Tree} {w v : List Token} {f : Tree → Tree}
    (h : Suffixed inner x w y) (suffix : Suffix inner v f) :
    Suffixed inner x (w ++ v) (f y) := by
  induction h with
  | none x =>
      have h := Suffixed.more suffix (Suffixed.none (f x))
      rw [List.append_nil] at h
      exact h
  | more suffix' _ ih =>
      rw [List.append_assoc]
      exact Suffixed.more suffix' ih

/-- An operand with what is attached to it is a literal, a name or an expression in
parentheses with what is attached to that. -/
theorem Postfix.exists_suffixed {w : List Token} {x : Tree} (h : Postfix inner w x) :
    ∃ w₀ x₀ v, w = w₀ ++ v ∧ Primary inner w₀ x₀ ∧ Suffixed inner x₀ v x := by
  induction h with
  | @operand w x operand => exact ⟨w, x, [], by simp, operand, .none x⟩
  | attached _ suffix ih =>
      obtain ⟨w₀, x₀, v, rfl, first, others⟩ := ih
      exact ⟨w₀, x₀, _, by rw [List.append_assoc], first, others.snoc suffix⟩

/-- More can be attached to an operand. -/
theorem Postfix.append {v : List Token} {x y : Tree} (others : Suffixed inner x v y) :
    ∀ {w : List Token}, Postfix inner w x → Postfix inner (w ++ v) y := by
  induction others with
  | none x =>
      intro w h
      rw [List.append_nil]
      exact h
  | more suffix _ ih =>
      intro w h
      have h' := ih (h.attached suffix)
      rw [List.append_assoc] at h'
      exact h'

end Suffixes

/-! ## §7. What a phrase begins with. -/

/-- How loosely the phrases bind that a token begins: 0 for literals, names and
parentheses, 1 for signs, 2 for `not`, 3 for tokens that begin no phrase. -/
def opening : Token → Nat
  | .int _ | .float _ | .str _ | .ident _ => 0
  | .symbol .trueWord | .symbol .falseWord | .symbol .noneWord | .symbol .leftParen => 0
  | .symbol .plus | .symbol .minus => 1
  | .symbol .notWord => 2
  | .symbol _ => 3

/-- The tokens begin with one that begins phrases no looser than `k`. -/
def BeginsWithin (k : Nat) (w : List Token) : Prop := ∃ t v, w = t :: v ∧ opening t ≤ k

theorem BeginsWithin.append {k : Nat} {w : List Token} (h : BeginsWithin k w) (v : List Token) :
    BeginsWithin k (w ++ v) := by
  obtain ⟨t, u, rfl, ht⟩ := h
  exact ⟨t, u ++ v, rfl, ht⟩

theorem BeginsWithin.mono {j k : Nat} {w : List Token} (h : BeginsWithin j w) (hjk : j ≤ k) :
    BeginsWithin k w := by
  obtain ⟨t, u, rfl, ht⟩ := h
  exact ⟨t, u, rfl, Nat.le_trans ht hjk⟩

theorem beginsWithin_chain {ω : Type} {signs : List (Symbol × ω)}
    {node : ω → Tree → Tree → Tree} {Operand : Form} {k : Nat}
    (hO : ∀ w x, Operand w x → BeginsWithin k w) {w : List Token} {x : Tree}
    (h : Chain signs node Operand w x) : BeginsWithin k w := by
  induction h with
  | single operand => exact hO _ _ operand
  | joined _ _ _ ih => exact ih.append _

variable {inner : Inner} {w : List Token} {x : Tree}

theorem beginsWithin_primary (h : Primary inner w x) : BeginsWithin 0 w := by
  cases h <;> exact ⟨_, _, rfl, Nat.le_refl 0⟩

theorem beginsWithin_postfixed (h : Postfix inner w x) : BeginsWithin 0 w := by
  induction h with
  | operand operand => exact beginsWithin_primary operand
  | attached _ _ ih => exact ih.append _

theorem beginsWithin_power (h : Power inner w x) : BeginsWithin 0 w := by
  cases h with
  | base base => exact beginsWithin_postfixed base
  | raised base _ => exact (beginsWithin_postfixed base).append _

theorem opening_of_unarySigns {s : Symbol} {op : UnaryOp} (h : (s, op) ∈ unarySigns) :
    opening (.symbol s) = 1 := by
  simp only [unarySigns, List.mem_cons, List.not_mem_nil, Prod.mk.injEq, or_false] at h
  rcases h with ⟨rfl, -⟩ | ⟨rfl, -⟩ <;> rfl

theorem beginsWithin_signed (h : Signed inner w x) : BeginsWithin 1 w := by
  cases h with
  | unsigned power => exact (beginsWithin_power power).mono (Nat.zero_le 1)
  | sign sign _ => exact ⟨_, _, rfl, Nat.le_of_eq (opening_of_unarySigns sign)⟩

theorem beginsWithin_sum (h : Sum inner w x) : BeginsWithin 1 w :=
  beginsWithin_chain
    (fun _ _ hp => beginsWithin_chain (fun _ _ hs => beginsWithin_signed hs) hp) h

theorem beginsWithin_comparison (h : Comparison inner w x) : BeginsWithin 1 w := by
  cases h with
  | single operand => exact beginsWithin_sum operand
  | chain first _ _ => exact (beginsWithin_sum first).append _

theorem beginsWithin_negation (h : Negation inner w x) : BeginsWithin 2 w := by
  cases h with
  | comparison comparison => exact (beginsWithin_comparison comparison).mono (by omega)
  | not _ => exact ⟨_, _, rfl, Nat.le_refl 2⟩

theorem beginsWithin_disjunction (h : Disjunction inner w x) : BeginsWithin 2 w :=
  beginsWithin_chain
    (fun _ _ hc => beginsWithin_chain (fun _ _ hn => beginsWithin_negation hn) hc) h

theorem beginsWithin_expression (h : Expression inner w x) : BeginsWithin 2 w := by
  cases h with
  | plain disjunction => exact beginsWithin_disjunction disjunction
  | choice whenTrue _ _ => exact (beginsWithin_disjunction whenTrue).append _

theorem beginsWithin_arguments (hb : ∀ v y, inner.expression v y → BeginsWithin 2 v)
    {xs : List Tree} (h : Arguments inner w xs) : BeginsWithin 2 w := by
  cases h with
  | last argument => exact hb _ _ argument
  | lastWithComma argument => exact (hb _ _ argument).append _
  | more argument _ => exact (hb _ _ argument).append _

/-- No expression is empty, and none begins with a closing parenthesis. -/
theorem beginsWithin_phrases : ∀ (n : Nat) (v : List Token) (y : Tree),
    (phrases n).expression v y → BeginsWithin 2 v
  | 0, _, _, h => absurd h id
  | _ + 1, _, _, h => beginsWithin_expression h

end Phrase

end Fanout.Expr
