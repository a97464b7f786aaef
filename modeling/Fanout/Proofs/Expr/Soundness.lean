/-
  Fanout.Proofs.Expr.Soundness
  ────────────────────────────
  **What the parsers read is a phrase.**

  A parser that succeeds has taken a phrase of its form off the front of the
  tokens (`Sound`).  There is one lemma for each parser, under the assumption
  that the parsers of the levels inside are sound; `soundLevel_parsers` goes
  by induction on the number of levels that may still be opened.
-/
import Fanout.Expr.Tree.Grammar
import Fanout.Proofs.Expr.Phrase

namespace Fanout.Expr

open Phrase

/-- Tokens without their positions. -/
def tokensOf (ts : List Located) : List Token := ts.map Located.token

@[simp] theorem tokensOf_nil : tokensOf [] = [] := rfl

@[simp] theorem tokensOf_cons (t : Located) (ts : List Located) :
    tokensOf (t :: ts) = t.token :: tokensOf ts := rfl

@[simp] theorem tokensOf_append (us vs : List Located) :
    tokensOf (us ++ vs) = tokensOf us ++ tokensOf vs := List.map_append

/-- A parser takes phrases of a form off the front of the tokens. -/
def Sound (p : Parser Tree) (F : Form) : Prop :=
  ∀ ⦃ts rest : List Located⦄ ⦃x : Tree⦄, p ts = .ok (x, rest) →
    ∃ us, ts = us ++ rest ∧ F (tokensOf us) x

/-- The parsers for what opens a level are sound. -/
structure SoundLevel (l : Level) (inner : Inner) : Prop where
  expression : Sound l.expression inner.expression
  negated : Sound l.negated inner.negation
  signed : Sound l.signed inner.signed

/-! ## §1. Symbols. -/

theorem eq_of_after? {s : Symbol} {ts rest : List Located} (h : after? s ts = some rest) :
    ∃ t, ts = t :: rest ∧ t.token = .symbol s := by
  cases ts with
  | nil => simp [after?] at h
  | cons t ts =>
      by_cases ht : t.token = .symbol s
      · simp only [after?, if_pos ht, Option.some.injEq] at h
        exact ⟨t, by rw [h], ht⟩
      · simp [after?, if_neg ht] at h

theorem reject_ne_ok {α : Type} {stop : Nat} {expected : Expected} {ts : List Located} {a : α} :
    reject stop expected ts ≠ .ok a := by
  cases ts <;> simp [reject]

theorem eq_of_require {stop : Nat} {s : Symbol} {expected : Expected} {ts rest : List Located}
    (h : require stop s expected ts = .ok rest) : ∃ t, ts = t :: rest ∧ t.token = .symbol s := by
  unfold require at h
  split at h
  · rename_i r hr
    injection h with h
    subst h
    exact eq_of_after? hr
  · exact absurd h reject_ne_ok

/-- An operator's reading of tokens agrees with how the operators are written. -/
def ReadsSigns {ω : Type} (operator? : Token → Option ω) (signs : List (Symbol × ω)) : Prop :=
  ∀ t op, operator? t = some op ↔ ∃ s, t = .symbol s ∧ (s, op) ∈ signs

theorem readsSigns_productOp? : ReadsSigns productOp? productSigns := by
  intro t op
  cases t with
  | symbol s => cases s <;> simp [productOp?, productSigns, eq_comm]
  | _ => simp [productOp?]

theorem readsSigns_sumOp? : ReadsSigns sumOp? sumSigns := by
  intro t op
  cases t with
  | symbol s => cases s <;> simp [sumOp?, sumSigns, eq_comm]
  | _ => simp [sumOp?]

theorem readsSigns_compareOp? : ReadsSigns compareOp? compareSigns := by
  intro t op
  cases t with
  | symbol s => cases s <;> simp [compareOp?, compareSigns, eq_comm]
  | _ => simp [compareOp?]

theorem readsSigns_signOp? : ReadsSigns signOp? unarySigns := by
  intro t op
  cases t with
  | symbol s => cases s <;> simp [signOp?, unarySigns, eq_comm]
  | _ => simp [signOp?]

theorem readsSigns_symbolOp? (s : Symbol) : ReadsSigns (symbolOp? s) [(s, ())] := by
  intro t op
  simp [symbolOp?]

/-! ## §2. Operators with operands. -/

section Chain

variable {ω : Type} {operator? : Token → Option ω} {signs : List (Symbol × ω)}
  {operand : Parser Tree} {Operand : Form}

/-- What `operations` reads is operators with operands, whatever its fuel. -/
theorem operations_sound (hs : ReadsSigns operator? signs) (ho : Sound operand Operand) :
    ∀ (fuel : Nat) {ts rest : List Located} {more : List (ω × Tree)},
      operations operator? operand fuel ts = .ok (more, rest) →
      ∃ us, ts = us ++ rest ∧ Operations signs Operand (tokensOf us) more
  | 0, ts, rest, more, h => by
      simp only [operations, Except.ok.injEq, Prod.mk.injEq] at h
      obtain ⟨rfl, rfl⟩ := h
      exact ⟨[], rfl, .none⟩
  | _ + 1, [], rest, more, h => by
      simp only [operations, Except.ok.injEq, Prod.mk.injEq] at h
      obtain ⟨rfl, rfl⟩ := h
      exact ⟨[], rfl, .none⟩
  | fuel + 1, t :: ts, rest, more, h => by
      unfold operations at h
      split at h
      · simp only [Except.ok.injEq, Prod.mk.injEq] at h
        obtain ⟨rfl, rfl⟩ := h
        exact ⟨[], rfl, .none⟩
      · rename_i op hop
        split at h
        · cases h
        · rename_i x r hx
          split at h
          · cases h
          · rename_i others r' hr
            simp only [Except.ok.injEq, Prod.mk.injEq] at h
            obtain ⟨rfl, rfl⟩ := h
            -- The tokens read are the operator, its operand and those of the others.
            obtain ⟨us, rfl, hu⟩ := ho hx
            obtain ⟨vs, rfl, hv⟩ := operations_sound hs ho fuel hr
            obtain ⟨s, ht, hsign⟩ := (hs _ _).mp hop
            refine ⟨t :: (us ++ vs), by simp, ?_⟩
            rw [tokensOf_cons, tokensOf_append, ht]
            exact .more hsign hu hv

/-- What `chain` reads is an operand and operators with operands. -/
theorem exists_of_chain (hs : ReadsSigns operator? signs) (ho : Sound operand Operand)
    {join : Tree → List (ω × Tree) → Tree} {ts rest : List Located} {x : Tree}
    (h : chain operator? join operand ts = .ok (x, rest)) :
    ∃ us vs x₀ more, ts = us ++ vs ++ rest ∧ Operand (tokensOf us) x₀
      ∧ Operations signs Operand (tokensOf vs) more ∧ x = join x₀ more := by
  unfold chain at h
  split at h
  · cases h
  · rename_i first r hf
    split at h
    · cases h
    · rename_i more r' hm
      simp only [Except.ok.injEq, Prod.mk.injEq] at h
      obtain ⟨rfl, rfl⟩ := h
      obtain ⟨us, rfl, hu⟩ := ho hf
      obtain ⟨vs, rfl, hv⟩ := operations_sound hs ho _ hm
      exact ⟨us, vs, first, more, by rw [List.append_assoc], hu, hv, rfl⟩

theorem chain_sound (hs : ReadsSigns operator? signs) (ho : Sound operand Operand)
    (node : ω → Tree → Tree → Tree) :
    Sound (chain operator? (joinLeft node) operand) (Phrase.Chain signs node Operand) := by
  intro ts rest x h
  obtain ⟨us, vs, x₀, more, rfl, hu, hv, rfl⟩ := exists_of_chain hs ho h
  refine ⟨us ++ vs, rfl, ?_⟩
  rw [tokensOf_append]
  exact Phrase.Chain.append hv (.single hu)

end Chain

/-! ## §3. Operands. -/

/-- What `adjoined` takes are texts, and it puts them together. -/
theorem exists_of_adjoined (ts : List Located) :
    ∃ (ss : List String) (us : List Located), ts = us ++ (adjoined ts).2
      ∧ tokensOf us = ss.map .str ∧ (adjoined ts).1 = String.join ss := by
  fun_induction adjoined ts with
  | case1 s p rest more left h ih =>
      obtain ⟨ss, us, hr, hu, hj⟩ := ih
      rw [h] at hr hj
      refine ⟨s :: ss, ⟨.str s, p⟩ :: us, by rw [hr, List.cons_append], ?_, ?_⟩
      · simp [hu]
      · simp only at hj
        rw [hj, String.join_cons]
  | case2 ts _ => exact ⟨[], [], rfl, rfl, rfl⟩

variable {l : Level} {inner : Inner} {stop : Nat}

theorem primary_sound (hl : SoundLevel l inner) : Sound (primary stop l) (Primary inner) := by
  intro ts rest x h
  unfold primary at h
  split at h
  case h_1 n p r =>
    cases h
    exact ⟨[⟨.int n, p⟩], rfl, .int n⟩
  case h_2 y p r =>
    cases h
    exact ⟨[⟨.float y, p⟩], rfl, .float y⟩
  case h_3 s p r =>
    -- A text, together with those beside it.
    cases h
    obtain ⟨ss, us, hr, hu, hj⟩ := exists_of_adjoined r
    refine ⟨⟨.str s, p⟩ :: us, by rw [List.cons_append, ← hr], ?_⟩
    rw [tokensOf_cons, hu, hj]
    exact .texts s ss
  case h_4 n p r =>
    cases h
    exact ⟨[⟨.ident n, p⟩], rfl, .name n⟩
  case h_5 p r =>
    cases h
    exact ⟨[⟨.symbol .trueWord, p⟩], rfl, .true⟩
  case h_6 p r =>
    cases h
    exact ⟨[⟨.symbol .falseWord, p⟩], rfl, .false⟩
  case h_7 p r =>
    cases h
    exact ⟨[⟨.symbol .noneWord, p⟩], rfl, .none⟩
  case h_8 p r =>
    -- Parentheses: what is inside opens a level.
    split at h
    · cases h
    · rename_i y r' hy
      split at h
      · cases h
      · rename_i r'' hr
        cases h
        obtain ⟨us, rfl, hu⟩ := hl.expression hy
        obtain ⟨t, rfl, ht⟩ := eq_of_require hr
        refine ⟨⟨.symbol .leftParen, p⟩ :: (us ++ [t]), by simp, ?_⟩
        rw [tokensOf_cons, tokensOf_append, tokensOf_cons, ht]
        exact .parenthesised hu
  case h_9 => exact absurd h reject_ne_ok

/-- What `arguments` reads is arguments and the parenthesis behind them. -/
theorem arguments_sound (hl : SoundLevel l inner) :
    ∀ (fuel : Nat) {ts rest : List Located} {xs : List Tree},
      arguments stop l fuel ts = .ok (xs, rest) →
      ∃ us t, ts = us ++ t :: rest ∧ t.token = .symbol .rightParen
        ∧ Arguments inner (tokensOf us) xs
  | 0, ts, rest, xs, h => absurd h reject_ne_ok
  | fuel + 1, ts, rest, xs, h => by
      unfold arguments at h
      split at h
      · cases h
      · rename_i x r hx
        obtain ⟨us, rfl, hu⟩ := hl.expression hx
        split at h
        · -- A comma: it ends the arguments, or another one follows.
          rename_i r' hc
          obtain ⟨c, rfl, hct⟩ := eq_of_after? hc
          split at h
          · rename_i r'' hp
            cases h
            obtain ⟨t, rfl, ht⟩ := eq_of_after? hp
            refine ⟨us ++ [c], t, by simp, ht, ?_⟩
            rw [tokensOf_append, tokensOf_cons, hct]
            exact .lastWithComma hu
          · split at h
            · cases h
            · rename_i more r'' hm
              cases h
              obtain ⟨vs, t, rfl, ht, hv⟩ := arguments_sound hl fuel hm
              refine ⟨us ++ c :: vs, t, by simp, ht, ?_⟩
              rw [tokensOf_append, tokensOf_cons, hct]
              exact .more hu hv
        · -- No comma: the argument is the last.
          split at h
          · cases h
          · rename_i r' hr
            cases h
            obtain ⟨t, rfl, ht⟩ := eq_of_require hr
            exact ⟨us, t, rfl, ht, .last hu⟩

/-- What `suffixes` reads can be attached to an operand. -/
theorem suffixes_sound (hl : SoundLevel l inner) :
    ∀ (fuel : Nat) {x y : Tree} {ts rest : List Located},
      suffixes stop l fuel x ts = .ok (y, rest) →
      ∃ us, ts = us ++ rest ∧ Suffixed inner x (tokensOf us) y
  | 0, x, y, ts, rest, h => by
      simp only [suffixes, Except.ok.injEq, Prod.mk.injEq] at h
      obtain ⟨rfl, rfl⟩ := h
      exact ⟨[], rfl, .none x⟩
  | fuel + 1, x, y, ts, rest, h => by
      unfold suffixes at h
      split at h
      case h_1 p r =>
        -- A call, without or with arguments.
        split at h
        · rename_i r' hc
          obtain ⟨t, rfl, ht⟩ := eq_of_after? hc
          obtain ⟨us, rfl, hu⟩ := suffixes_sound hl fuel h
          refine ⟨⟨.symbol .leftParen, p⟩ :: t :: us, rfl, ?_⟩
          rw [tokensOf_cons, tokensOf_cons, ht]
          exact .more .callWithout hu
        · split at h
          · cases h
          · rename_i args r' ha
            obtain ⟨vs, t, rfl, ht, hv⟩ := arguments_sound hl _ ha
            obtain ⟨us, rfl, hu⟩ := suffixes_sound hl fuel h
            refine ⟨⟨.symbol .leftParen, p⟩ :: (vs ++ t :: us), by simp, ?_⟩
            have hs := Suffixed.more (.call hv) hu
            rw [tokensOf_cons, tokensOf_append, tokensOf_cons, ht]
            simpa using hs
      case h_2 p n q r =>
        -- An attribute.
        obtain ⟨us, rfl, hu⟩ := suffixes_sound hl fuel h
        exact ⟨⟨.symbol .dot, p⟩ :: ⟨.ident n, q⟩ :: us, rfl, .more (.attr n) hu⟩
      case h_3 => exact absurd h reject_ne_ok
      case h_4 p r =>
        -- An index.
        split at h
        · cases h
        · rename_i i r' hi
          split at h
          · cases h
          · rename_i r'' hr
            obtain ⟨vs, rfl, hv⟩ := hl.expression hi
            obtain ⟨t, rfl, ht⟩ := eq_of_require hr
            obtain ⟨us, rfl, hu⟩ := suffixes_sound hl fuel h
            refine ⟨⟨.symbol .leftBracket, p⟩ :: (vs ++ t :: us), by simp, ?_⟩
            have hs := Suffixed.more (.index hv) hu
            rw [tokensOf_cons, tokensOf_append, tokensOf_cons, ht]
            simpa using hs
      case h_5 =>
        -- Nothing more is attached.
        simp only [Except.ok.injEq, Prod.mk.injEq] at h
        obtain ⟨rfl, rfl⟩ := h
        exact ⟨[], rfl, .none x⟩

theorem postfixed_sound (hl : SoundLevel l inner) : Sound (postfixed stop l) (Postfix inner) := by
  intro ts rest x h
  unfold postfixed at h
  split at h
  · cases h
  · rename_i x₀ r hx
    obtain ⟨us, rfl, hu⟩ := primary_sound hl hx
    obtain ⟨vs, rfl, hv⟩ := suffixes_sound hl _ h
    refine ⟨us ++ vs, by rw [List.append_assoc], ?_⟩
    rw [tokensOf_append]
    exact Postfix.append hv (.operand hu)

theorem powers_sound (hl : SoundLevel l inner) : Sound (powers stop l) (Power inner) := by
  intro ts rest x h
  unfold powers at h
  split at h
  · cases h
  · rename_i base r hb
    obtain ⟨us, rfl, hu⟩ := postfixed_sound hl hb
    split at h
    · cases h
      exact ⟨us, rfl, .base hu⟩
    · rename_i r' hs
      obtain ⟨t, rfl, ht⟩ := eq_of_after? hs
      split at h
      · cases h
      · rename_i y r'' hy
        cases h
        obtain ⟨vs, rfl, hv⟩ := hl.signed hy
        refine ⟨us ++ t :: vs, by simp, ?_⟩
        rw [tokensOf_append, tokensOf_cons, ht]
        exact .raised hu hv

/-! ## §4. Expressions. -/

theorem signs_sound (hl : SoundLevel l inner) : Sound (signs stop l) (Signed inner) := by
  intro ts rest x h
  cases ts with
  | nil =>
      have h : powers stop l [] = .ok (x, rest) := h
      obtain ⟨us, hr, hu⟩ := powers_sound hl h
      exact ⟨us, hr, .unsigned hu⟩
  | cons t ts =>
      simp only [signs] at h
      split at h
      · rename_i op hop
        split at h
        · cases h
        · rename_i y r hy
          cases h
          obtain ⟨us, rfl, hu⟩ := hl.signed hy
          obtain ⟨s, ht, hs⟩ := (readsSigns_signOp? _ _).mp hop
          refine ⟨t :: us, rfl, ?_⟩
          rw [tokensOf_cons, ht]
          exact .sign hs hu
      · obtain ⟨us, hr, hu⟩ := powers_sound hl h
        exact ⟨us, hr, .unsigned hu⟩

theorem products_sound (hl : SoundLevel l inner) : Sound (products stop l) (Product inner) :=
  chain_sound readsSigns_productOp? (signs_sound hl) _

theorem sums_sound (hl : SoundLevel l inner) : Sound (sums stop l) (Sum inner) :=
  chain_sound readsSigns_sumOp? (products_sound hl) _

theorem comparisons_sound (hl : SoundLevel l inner) :
    Sound (comparisons stop l) (Comparison inner) := by
  intro ts rest x h
  obtain ⟨us, vs, x₀, more, rfl, hu, hv, rfl⟩ :=
    exists_of_chain readsSigns_compareOp? (sums_sound hl) h
  refine ⟨us ++ vs, rfl, ?_⟩
  rw [tokensOf_append]
  -- Without operators the operand stands alone, and then no token was read behind it.
  cases more with
  | nil =>
      cases hv' : tokensOf vs with
      | nil =>
          rw [List.append_nil]
          exact .single hu
      | cons t w =>
          rw [hv'] at hv
          cases hv
  | cons m more => exact .chain hu hv (by simp)

theorem negations_sound (hl : SoundLevel l inner) : Sound (negations stop l) (Negation inner) := by
  intro ts rest x h
  unfold negations at h
  split at h
  · rename_i r hn
    obtain ⟨t, rfl, ht⟩ := eq_of_after? hn
    split at h
    · cases h
    · rename_i y r' hy
      cases h
      obtain ⟨us, rfl, hu⟩ := hl.negated hy
      refine ⟨t :: us, rfl, ?_⟩
      rw [tokensOf_cons, ht]
      exact .not hu
  · obtain ⟨us, rfl, hu⟩ := comparisons_sound hl h
    exact ⟨us, rfl, .comparison hu⟩

theorem conjunctions_sound (hl : SoundLevel l inner) :
    Sound (conjunctions stop l) (Conjunction inner) :=
  chain_sound (readsSigns_symbolOp? .andWord) (negations_sound hl) fun _ => .both

theorem disjunctions_sound (hl : SoundLevel l inner) :
    Sound (disjunctions stop l) (Disjunction inner) :=
  chain_sound (readsSigns_symbolOp? .orWord) (conjunctions_sound hl) fun _ => .either

theorem choices_sound (hl : SoundLevel l inner) : Sound (choices stop l) (Expression inner) := by
  intro ts rest x h
  unfold choices at h
  split at h
  · cases h
  · rename_i yes r hy
    obtain ⟨us, rfl, hu⟩ := disjunctions_sound hl hy
    split at h
    · cases h
      exact ⟨us, rfl, .plain hu⟩
    · rename_i r₁ hi
      obtain ⟨t, rfl, ht⟩ := eq_of_after? hi
      split at h
      · cases h
      · rename_i cond r₂ hc
        obtain ⟨vs, rfl, hv⟩ := disjunctions_sound hl hc
        split at h
        · cases h
        · rename_i r₃ he
          obtain ⟨e, rfl, het⟩ := eq_of_require he
          split at h
          · cases h
          · rename_i no r₄ hn
            cases h
            obtain ⟨ws, rfl, hw⟩ := hl.expression hn
            refine ⟨us ++ t :: (vs ++ e :: ws), by simp, ?_⟩
            rw [tokensOf_append, tokensOf_cons, tokensOf_append, tokensOf_cons, ht, het]
            exact .choice hu hv hw

/-! ## §5. Levels. -/

theorem tooDeep_sound (F : Form) : Sound tooDeep F := by
  intro ts rest x h
  cases h

/-- **The parsers of every level read phrases of that level.** -/
theorem soundLevel_parsers (stop : Nat) : ∀ n, SoundLevel (parsers stop n) (phrases n)
  | 0 => ⟨tooDeep_sound _, tooDeep_sound _, tooDeep_sound _⟩
  | n + 1 =>
    have hl := soundLevel_parsers stop n
    ⟨choices_sound hl, negations_sound hl, signs_sound hl⟩

end Fanout.Expr
