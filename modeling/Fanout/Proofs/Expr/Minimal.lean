/-
  Fanout.Proofs.Expr.Minimal
  ──────────────────────────
  **What is written for a tree is the least phrase that stands for it.**

  `formAt inner k` are the phrases that may stand in a place of the rank
  `k` without parentheses; a phrase of a higher rank may stand there too.

    • `Fits.of_writable` — the tokens of a tree are a phrase of its rank,
      within as many levels as `Tree.levels` says,
    • `least_of_phrase` — no phrase for a tree has fewer tokens, and
      none with as few needs fewer levels.
-/
import Fanout.Proofs.Expr.Print

namespace Fanout.Expr

open Phrase

/-! ## §1. Phrases by rank. -/

/-- The phrases of the rank `k`. -/
def formAt (inner : Inner) : Nat → Form
  | 0 | 1 => Expression inner
  | 2 => Disjunction inner
  | 3 => Conjunction inner
  | 4 => Negation inner
  | 5 => Comparison inner
  | 6 => Phrase.Sum inner
  | 7 => Product inner
  | 8 => Signed inner
  | 9 => Power inner
  | _ => Postfix inner

variable {inner : Inner} {w : List Token} {x : Tree}

theorem formAt_of_succ : ∀ {k : Nat}, formAt inner (k + 1) w x → formAt inner k w x
  | 0, h => h
  | 1, h => Expression.plain h
  | 2, h => Chain.single h
  | 3, h => Chain.single h
  | 4, h => Negation.comparison h
  | 5, h => Comparison.single h
  | 6, h => Chain.single h
  | 7, h => Chain.single h
  | 8, h => Signed.unsigned h
  | 9, h => Power.base h
  | _ + 10, h => h

/-- Phrases of a higher rank may stand in a place of a lower one. -/
theorem formAt_mono {j k : Nat} (hjk : j ≤ k) (h : formAt inner k w x) : formAt inner j w x := by
  induction hjk with
  | refl => exact h
  | step _ ih => exact ih (formAt_of_succ h)

theorem UnaryOp.rank_le (op : UnaryOp) : op.rank ≤ 10 := by
  cases op <;> decide

/-! ## §2. The tokens of a tree are a phrase. -/

/-- The tokens of a tree are a phrase of its rank, whenever enough levels may be opened. -/
def Fits (x : Tree) : Prop := ∀ n, x.levels ≤ n → formAt (phrases n) x.rank x.tokens x

/-- A tree fits everywhere, with parentheses where it needs them. -/
theorem Fits.enclosed (h : Fits x) {k n : Nat} (hr : k ≤ 10)
    (hn : deepened k x.rank x.levels ≤ n) :
    formAt (phrases n) k (enclosed k x.rank x.tokens) x := by
  unfold Fanout.Expr.enclosed
  unfold deepened at hn
  by_cases hlow : x.rank < k
  · rw [if_pos hlow] at hn ⊢
    -- the parentheses open one of the levels
    obtain ⟨m, rfl⟩ : ∃ m, n = m + 1 := ⟨n - 1, by omega⟩
    have hinside : formAt (phrases m) 0 x.tokens x :=
      formAt_mono (Nat.zero_le _) (h m (by omega))
    have hprimary : Primary (phrases (m + 1)) _ x := .parenthesised hinside
    exact formAt_mono hr (show formAt _ 10 _ x from Postfix.operand hprimary)
  · rw [if_neg hlow] at hn ⊢
    exact formAt_mono (by omega) (h n hn)

/-- What opens a level is a phrase of the levels inside. -/
theorem Fits.opened (h : Fits x) {k n : Nat} (hr : k ≤ 10)
    (hn : deepened k x.rank x.levels + 1 ≤ n) :
    ∃ m, n = m + 1 ∧ formAt (phrases m) k (Expr.enclosed k x.rank x.tokens) x :=
  ⟨n - 1, by omega, h.enclosed hr (by omega)⟩

/-- A tree alone in a place that takes every expression. -/
theorem Fits.expression (h : Fits x) {n : Nat} (hn : x.levels + 1 ≤ n) :
    (phrases n).expression x.tokens x := by
  obtain ⟨m, rfl⟩ : ∃ m, n = m + 1 := ⟨n - 1, by omega⟩
  have hx := h m (by omega)
  exact formAt_mono (Nat.zero_le _) hx

theorem fits_arguments {n : Nat} :
    ∀ {x : Tree} {xs : List Tree}, (∀ y ∈ x :: xs, Fits y) → argumentLevels (x :: xs) ≤ n →
      Arguments (phrases n) (argumentTokens (x :: xs)) (x :: xs)
  | x, [], h, hn => by
      rw [argumentLevels] at hn
      exact .last ((h x List.mem_cons_self).expression (by omega))
  | x, y :: xs, h, hn => by
      rw [argumentLevels] at hn
      have hothers := fits_arguments (fun z hz => h z (List.mem_cons_of_mem x hz))
        (show argumentLevels (y :: xs) ≤ n by omega)
      exact .more ((h x List.mem_cons_self).expression (by omega)) hothers

theorem CompareOp.mem_compareSigns (op : CompareOp) : (op.sign, op) ∈ compareSigns := by
  cases op <;> decide

theorem fits_comparisons {n : Nat} :
    ∀ {rest : List (CompareOp × Tree)}, (∀ p ∈ rest, Fits p.2) → comparisonLevels rest ≤ n →
      Operations compareSigns (Phrase.Sum (phrases n)) (comparisonTokens rest) rest
  | [], _, _ => .none
  | (op, x) :: rest, h, hn => by
      rw [comparisonLevels] at hn
      have hop : Fits x := h _ List.mem_cons_self
      have hx := hop.enclosed (k := 6) (n := n) (by decide) (by omega)
      have hothers := fits_comparisons (fun p hp => h p (List.mem_cons_of_mem _ hp))
        (show comparisonLevels rest ≤ n by omega)
      exact .more op.mem_compareSigns hx hothers

theorem Fits.unary (op : UnaryOp) (h : Fits x) : Fits (.unary op x) := by
  intro n hn
  obtain ⟨m, rfl, hx⟩ := h.opened op.rank_le hn
  cases op with
  | neg => exact Signed.sign (by decide) hx
  | pos => exact Signed.sign (by decide) hx
  | not => exact Negation.not hx

theorem Fits.binary (op : BinaryOp) {l r : Tree} (hl : Fits l) (hr : Fits r) :
    Fits (.binary op l r) := by
  intro n hn
  rw [Tree.levels] at hn
  have hleft := hl.enclosed (k := op.leftRank) (n := n) (by cases op <;> decide) (by omega)
  by_cases hpow : op = .pow
  · subst hpow
    obtain ⟨m, rfl, hright⟩ := hr.opened (k := 8) (n := n) (by decide)
      (Nat.le_trans (Nat.le_max_right _ _) hn)
    exact Power.raised hleft hright
  · -- every other operator takes its operand behind it from the next rank on
    have hright := hr.enclosed (k := op.rightRank) (n := n) (by cases op <;> decide)
      (by omega)
    cases op with
    | add | sub => exact Chain.joined hleft (by decide) hright
    | mul | div | floorDiv | mod => exact Chain.joined hleft (by decide) hright
    | pow => exact absurd rfl hpow

/-- A literal, a name or an expression in parentheses fits. -/
theorem Fits.of_primary (hr : x.rank = 10) (h : ∀ inner, Primary inner x.tokens x) : Fits x := by
  intro n _
  rw [hr]
  exact Postfix.operand (h _)

theorem fits_str (s : String) : Fits (.literal (.str s)) := by
  refine .of_primary rfl fun inner => ?_
  have h : Primary inner _ _ := .texts s []
  rw [show String.join [] = "" from rfl, String.append_empty] at h
  exact h

/-- **The tokens of a tree are a phrase that stands for it**, within its levels. -/
theorem Fits.of_writable (h : Writable x) : Fits x := by
  induction h with
  | @int n _ => exact .of_primary rfl fun _ => .int n
  | str s => exact fits_str s
  | bool b =>
      cases b with
      | false => exact .of_primary rfl fun _ => .false
      | true => exact .of_primary rfl fun _ => .true
  | none => exact .of_primary rfl fun _ => .none
  | @name n _ => exact .of_primary rfl fun _ => .name n
  | unary op _ ih => exact ih.unary op
  | binary op _ _ ihl ihr => exact ihl.binary op ihr
  | both _ _ ihl ihr =>
      intro n hn
      rw [Tree.levels] at hn
      have hleft := ihl.enclosed (k := 3) (n := n) (by decide) (by omega)
      have hright := ihr.enclosed (k := 4) (n := n) (by decide) (by omega)
      have hsign : (Symbol.andWord, ()) ∈ andSigns := List.mem_cons_self
      exact Chain.joined hleft hsign hright
  | either _ _ ihl ihr =>
      intro n hn
      rw [Tree.levels] at hn
      have hleft := ihl.enclosed (k := 2) (n := n) (by decide) (by omega)
      have hright := ihr.enclosed (k := 3) (n := n) (by decide) (by omega)
      have hsign : (Symbol.orWord, ()) ∈ orSigns := List.mem_cons_self
      exact Chain.joined hleft hsign hright
  | compare _ _ some ihx ihrest =>
      intro n hn
      rw [Tree.levels] at hn
      have hfirst := ihx.enclosed (k := 6) (n := n) (by decide) (by omega)
      exact Comparison.chain hfirst (fits_comparisons ihrest (by omega)) some
  | choose _ _ _ ihcond ihyes ihno =>
      intro n hn
      rw [Tree.levels] at hn
      have hyes := ihyes.enclosed (k := 2) (n := n) (by decide) (by omega)
      have hcond := ihcond.enclosed (k := 2) (n := n) (by decide) (by omega)
      exact Expression.choice hyes hcond (ihno.expression (by omega))
  | @call f args _ _ ihf ihargs =>
      intro n hn
      rw [Tree.levels] at hn
      have hf := ihf.enclosed (k := 10) (n := n) (by decide) (by omega)
      cases args with
      | nil => exact Postfix.attached hf .callWithout
      | cons y ys => exact Postfix.attached hf (.call (fits_arguments ihargs (by omega)))
  | @attr _ a _ _ ih =>
      intro n hn
      exact Postfix.attached (ih.enclosed (k := 10) (by decide) hn) (.attr a)
  | @index x i _ _ ihx ihi =>
      intro n hn
      rw [Tree.levels] at hn
      have hx := ihx.enclosed (k := 10) (n := n) (by decide) (by omega)
      have hi : (phrases n).expression i.tokens i := ihi.expression (by omega)
      have hattached := Postfix.attached hx (.index hi)
      exact hattached

/-! ## §3. No phrase is less. -/

/-- The number of tokens written for a tree in a place of the rank `k`. -/
def Tree.size (k : Nat) (x : Tree) : Nat := (enclosed k x.rank x.tokens).length

/-- The number of levels that they open inside each other. -/
def Tree.depth (k : Nat) (x : Tree) : Nat := deepened k x.rank x.levels

/-- `w` has no fewer tokens than are written for `x` in a place of the rank `k`; if it has as
few, then `n` levels are enough for what is written. -/
def Least (k n : Nat) (w : List Token) (x : Tree) : Prop :=
  x.size k ≤ w.length ∧ (w.length ≤ x.size k → x.depth k ≤ n)

/-- The same for phrases that open one of the `n` levels. -/
def LeastInside (k n : Nat) (F : Form) : Prop :=
  ∀ ⦃w : List Token⦄ ⦃x : Tree⦄, F w x → ∃ m, n = m + 1 ∧ Least k m w x

/-- The phrases that open a level have no fewer tokens than what is written. -/
structure LeastInner (inner : Inner) (n : Nat) : Prop where
  expression : LeastInside 1 n inner.expression
  negation : LeastInside 4 n inner.negation
  signed : LeastInside 8 n inner.signed

theorem Tree.rank_pos (x : Tree) : 0 < x.rank := by
  cases x with
  | unary op _ => cases op <;> simp [Tree.rank, UnaryOp.rank]
  | binary op _ _ => cases op <;> simp [Tree.rank, BinaryOp.rank]
  | _ => simp [Tree.rank]

/-- Without parentheses only the tokens of the tree are written. -/
theorem Tree.size_of_le {k : Nat} (h : k ≤ x.rank) : x.size k = x.tokens.length := by
  rw [Tree.size, enclosed, if_neg (by omega)]

theorem Tree.depth_of_le {k : Nat} (h : k ≤ x.rank) : x.depth k = x.levels := by
  rw [Tree.depth, deepened, if_neg (by omega)]

theorem Tree.size_of_lt {k : Nat} (h : x.rank < k) : x.size k = x.tokens.length + 2 := by
  rw [Tree.size, enclosed, if_pos h]
  simp

theorem Tree.depth_of_lt {k : Nat} (h : x.rank < k) : x.depth k = x.levels + 1 := by
  rw [Tree.depth, deepened, if_pos h]

variable {n : Nat}

/-- What is least in a place is least in every looser place. -/
theorem Least.lower {j k : Nat} (hjk : j ≤ k) (h : Least k n w x) : Least j n w x := by
  unfold Least at h ⊢
  by_cases hk : k ≤ x.rank
  · rw [Tree.size_of_le hk, Tree.depth_of_le hk] at h
    rw [Tree.size_of_le (by omega), Tree.depth_of_le (by omega)]
    exact h
  · rw [Tree.size_of_lt (by omega), Tree.depth_of_lt (by omega)] at h
    by_cases hj : j ≤ x.rank
    · -- two tokens less are written, so that `w` has more
      rw [Tree.size_of_le hj]
      omega
    · rw [Tree.size_of_lt (by omega), Tree.depth_of_lt (by omega)]
      exact h

/-- For a tree that needs no parentheses, only its own tokens count. -/
theorem least_of_le {k : Nat} (hk : k ≤ x.rank) (hw : x.tokens.length ≤ w.length)
    (hn : w.length ≤ x.tokens.length → x.levels ≤ n) : Least k n w x := by
  rw [Least, Tree.size_of_le hk, Tree.depth_of_le hk]
  exact ⟨hw, hn⟩

/-- Parentheses open a level. -/
theorem Least.parenthesised {m : Nat} (h : Least 1 m w x) :
    Least 10 (m + 1) (.symbol .leftParen :: (w ++ [.symbol .rightParen])) x := by
  unfold Least at h ⊢
  rw [Tree.size_of_le x.rank_pos, Tree.depth_of_le x.rank_pos] at h
  simp only [List.length_cons, List.length_append, List.length_nil]
  by_cases hk : 10 ≤ x.rank
  · rw [Tree.size_of_le hk]
    omega
  · rw [Tree.size_of_lt (by omega), Tree.depth_of_lt (by omega)]
    omega

/-- Operands joined from the left are least if the operands are. -/
theorem least_chain {ω : Type} {signs : List (Symbol × ω)} {node : ω → Tree → Tree → Tree}
    {Operand : Form} {k : Nat} (hoperand : ∀ w x, Operand w x → Least (k + 1) n w x)
    (hnode : ∀ p ∈ signs, ∀ l r, (node p.2 l r).rank = k
      ∧ (node p.2 l r).tokens.length = l.size k + (r.size (k + 1) + 1)
      ∧ (node p.2 l r).levels = max (l.depth k) (r.depth (k + 1)))
    (h : Chain signs node Operand w x) : Least k n w x := by
  induction h with
  | single operand => exact (hoperand _ _ operand).lower (Nat.le_succ k)
  | joined _ sign right ih =>
      obtain ⟨hrank, hlength, hlevels⟩ := hnode _ sign _ _
      obtain ⟨hl, hl'⟩ := ih
      obtain ⟨hr, hr'⟩ := hoperand _ _ right
      apply least_of_le (Nat.le_of_eq hrank.symm)
      · rw [hlength, List.length_append, List.length_cons]
        omega
      · rw [hlength, hlevels, List.length_append, List.length_cons]
        omega

/-- The same for comparisons behind the first operand. -/
theorem least_comparisons {Operand : Form} (hoperand : ∀ w x, Operand w x → Least 6 n w x)
    {more : List (CompareOp × Tree)} (h : Operations compareSigns Operand w more) :
    (comparisonTokens more).length ≤ w.length ∧
      (w.length ≤ (comparisonTokens more).length → comparisonLevels more ≤ n) := by
  induction h with
  | none => exact ⟨Nat.le_refl 0, fun _ => Nat.zero_le n⟩
  | @more w v x rest s op sign operand _ ih =>
      obtain ⟨hx, hx'⟩ := hoperand _ _ operand
      have hlength : (comparisonTokens ((op, x) :: rest)).length =
          x.size 6 + (comparisonTokens rest).length + 1 := by
        simp [comparisonTokens, Tree.size]
      have hlevels : comparisonLevels ((op, x) :: rest) = max (x.depth 6) (comparisonLevels rest) :=
        rfl
      rw [hlength, hlevels, List.length_cons, List.length_append]
      omega

/-- A whole expression opens a level, and no parentheses are written around it. -/
theorem LeastInner.of_expression (hi : LeastInner inner n) (h : inner.expression w x) :
    x.tokens.length ≤ w.length ∧ (w.length ≤ x.tokens.length → x.levels + 1 ≤ n) := by
  obtain ⟨m, rfl, hw⟩ := hi.expression h
  unfold Least at hw
  rw [Tree.size_of_le x.rank_pos, Tree.depth_of_le x.rank_pos] at hw
  omega

/-- The same for arguments; a comma behind the last one makes them longer. -/
theorem least_arguments (hi : LeastInner inner n) {xs : List Tree} (h : Arguments inner w xs) :
    (argumentTokens xs).length ≤ w.length ∧
      (w.length ≤ (argumentTokens xs).length → argumentLevels xs ≤ n) := by
  induction h with
  | last argument =>
      have hx := hi.of_expression argument
      simp only [argumentTokens, argumentLevels]
      omega
  | lastWithComma argument =>
      have hx := hi.of_expression argument
      simp only [argumentTokens, argumentLevels, List.length_append, List.length_cons,
        List.length_nil]
      omega
  | @more w v x xs argument others ih =>
      have hx := hi.of_expression argument
      have hlength : (argumentTokens (x :: xs)).length =
          x.tokens.length + ((argumentTokens xs).length + 1) := by
        cases others <;> simp [argumentTokens]
      rw [hlength, argumentLevels, List.length_append, List.length_cons]
      omega

theorem least_primary (hi : LeastInner inner n) (h : Primary inner w x) : Least 10 n w x := by
  cases h with
  | parenthesised inside =>
      obtain ⟨m, rfl, hw⟩ := hi.expression inside
      exact hw.parenthesised
  | texts s more =>
      exact least_of_le (Nat.le_refl 10) (by simp [Tree.tokens, literalTokens])
        fun _ => Nat.zero_le n
  | _ => exact least_of_le (Nat.le_refl 10) (Nat.le_refl 1) fun _ => Nat.zero_le n

/-- An operand stays least when the tokens behind it are no fewer than those written behind it. -/
theorem Least.attached {y : Tree} {v v' : List Token} {k : Nat} (hx : Least 10 n w x)
    (hrank : y.rank = 10) (htokens : y.tokens = enclosed 10 x.rank x.tokens ++ v')
    (hlevels : y.levels = max (x.depth 10) k) (hv : v'.length ≤ v.length)
    (hk : v.length ≤ v'.length → k ≤ n) : Least 10 n (w ++ v) y := by
  obtain ⟨hx, hx'⟩ := hx
  have hlength : y.tokens.length = x.size 10 + v'.length := by
    rw [htokens, List.length_append, Tree.size]
  apply least_of_le (Nat.le_of_eq hrank.symm)
  · rw [hlength, List.length_append]
    omega
  · rw [hlength, hlevels, List.length_append]
    omega

/-- What is attached to an operand keeps it least. -/
theorem least_suffix (hi : LeastInner inner n) {v : List Token} {f : Tree → Tree}
    (h : Suffix inner v f) (hx : Least 10 n w x) : Least 10 n (w ++ v) (f x) := by
  cases h with
  | callWithout => exact hx.attached rfl rfl rfl (Nat.le_refl 2) fun _ => Nat.zero_le n
  | @call v args arguments =>
      obtain ⟨hargs, hargs'⟩ := least_arguments hi arguments
      apply hx.attached rfl rfl rfl
      · simpa using hargs
      · simpa using hargs'
  | attr a =>
      have hlevels : (Tree.attribute x a).levels = max (x.depth 10) 0 := (Nat.max_zero _).symm
      exact hx.attached rfl rfl hlevels (Nat.le_refl 2) fun _ => Nat.zero_le n
  | @index v i position =>
      obtain ⟨hposition, hposition'⟩ := hi.of_expression position
      apply hx.attached rfl rfl rfl
      · simpa using hposition
      · simpa using hposition'

theorem least_postfixed (hi : LeastInner inner n) (h : Postfix inner w x) : Least 10 n w x := by
  induction h with
  | operand operand => exact least_primary hi operand
  | attached _ suffix ih => exact least_suffix hi suffix ih

theorem least_power (hi : LeastInner inner n) (h : Power inner w x) : Least 9 n w x := by
  cases h with
  | base base => exact (least_postfixed hi base).lower (by decide)
  | @raised l r x y base exponent =>
      obtain ⟨hx, hx'⟩ := least_postfixed hi base
      obtain ⟨m, rfl, hy, hy'⟩ := hi.signed exponent
      have hlength : (Tree.binary .pow x y).tokens.length = x.size 10 + (y.size 8 + 1) := by
        simp [Tree.tokens, Tree.size, BinaryOp.leftRank, BinaryOp.rightRank]
      have hlevels : (Tree.binary .pow x y).levels = max (x.depth 10) (y.depth 8 + 1) := rfl
      apply least_of_le (Nat.le_refl 9)
      · rw [hlength, List.length_append, List.length_cons]
        omega
      · rw [hlength, hlevels, List.length_append, List.length_cons]
        omega

/-- The operand of `not` and of signs opens a level. -/
theorem least_unary {k : Nat} {op : UnaryOp} (hk : op.rank = k)
    (h : ∃ m, n = m + 1 ∧ Least k m w x) (s : Symbol) :
    Least k n (.symbol s :: w) (.unary op x) := by
  subst hk
  obtain ⟨m, rfl, hx, hx'⟩ := h
  have hlength : (Tree.unary op x).tokens.length = x.size op.rank + 1 := by
    simp [Tree.tokens, Tree.size]
  have hlevels : (Tree.unary op x).levels = x.depth op.rank + 1 := rfl
  apply least_of_le (Nat.le_refl _)
  · rw [hlength, List.length_cons]
    omega
  · rw [hlength, hlevels, List.length_cons]
    omega

theorem rank_of_mem_unarySigns {p : Symbol × UnaryOp} (h : p ∈ unarySigns) : p.2.rank = 8 := by
  simp only [unarySigns, List.mem_cons, List.not_mem_nil, or_false] at h
  rcases h with rfl | rfl <;> rfl

theorem least_signed (hi : LeastInner inner n) (h : Signed inner w x) : Least 8 n w x := by
  cases h with
  | unsigned power => exact (least_power hi power).lower (by decide)
  | sign sign operand =>
      exact least_unary (rank_of_mem_unarySigns sign) (hi.signed operand) _

/-- An operator that takes its operand behind it from the next rank on is written between its
operands. -/
theorem binary_written {op : BinaryOp} (h : op ≠ .pow) (l r : Tree) :
    (Tree.binary op l r).tokens.length = l.size op.rank + (r.size (op.rank + 1) + 1)
      ∧ (Tree.binary op l r).levels = max (l.depth op.rank) (r.depth (op.rank + 1)) := by
  cases op with
  | pow => exact absurd rfl h
  | _ =>
      refine ⟨?_, rfl⟩
      simp [Tree.tokens, Tree.size, BinaryOp.leftRank, BinaryOp.rightRank]

theorem of_mem_productSigns {p : Symbol × BinaryOp} (h : p ∈ productSigns) :
    p.2 ≠ .pow ∧ p.2.rank = 7 := by
  simp only [productSigns, List.mem_cons, List.not_mem_nil, or_false] at h
  rcases h with rfl | rfl | rfl | rfl <;> decide

theorem of_mem_sumSigns {p : Symbol × BinaryOp} (h : p ∈ sumSigns) :
    p.2 ≠ .pow ∧ p.2.rank = 6 := by
  simp only [sumSigns, List.mem_cons, List.not_mem_nil, or_false] at h
  rcases h with rfl | rfl <;> decide

theorem least_product (hi : LeastInner inner n) (h : Product inner w x) : Least 7 n w x := by
  refine least_chain (fun _ _ hs => least_signed hi hs) (fun p hp l r => ?_) h
  obtain ⟨hpow, hrank⟩ := of_mem_productSigns hp
  have hwritten := binary_written hpow l r
  rw [hrank] at hwritten
  exact ⟨hrank, hwritten⟩

theorem least_sum (hi : LeastInner inner n) (h : Phrase.Sum inner w x) : Least 6 n w x := by
  refine least_chain (fun _ _ hp => least_product hi hp) (fun p hp l r => ?_) h
  obtain ⟨hpow, hrank⟩ := of_mem_sumSigns hp
  have hwritten := binary_written hpow l r
  rw [hrank] at hwritten
  exact ⟨hrank, hwritten⟩

theorem least_comparison (hi : LeastInner inner n) (h : Comparison inner w x) :
    Least 5 n w x := by
  cases h with
  | single operand => exact (least_sum hi operand).lower (by decide)
  | @chain l r x more first others _ =>
      obtain ⟨hx, hx'⟩ := least_sum hi first
      have hmore := least_comparisons (fun _ _ hs => least_sum hi hs) others
      have hlength : (Tree.compare x more).tokens.length =
          x.size 6 + (comparisonTokens more).length := by
        simp [Tree.tokens, Tree.size]
      have hlevels : (Tree.compare x more).levels = max (x.depth 6) (comparisonLevels more) := rfl
      apply least_of_le (Nat.le_refl 5)
      · rw [hlength, List.length_append]
        omega
      · rw [hlength, hlevels, List.length_append]
        omega

theorem least_negation (hi : LeastInner inner n) (h : Negation inner w x) : Least 4 n w x := by
  cases h with
  | comparison comparison => exact (least_comparison hi comparison).lower (by decide)
  | not operand => exact least_unary rfl (hi.negation operand) _

theorem least_conjunction (hi : LeastInner inner n) (h : Conjunction inner w x) :
    Least 3 n w x := by
  refine least_chain (fun _ _ hn => least_negation hi hn) (fun p _ l r => ⟨rfl, ?_, rfl⟩) h
  simp [Tree.tokens, Tree.size]

theorem least_disjunction (hi : LeastInner inner n) (h : Disjunction inner w x) :
    Least 2 n w x := by
  refine least_chain (fun _ _ hc => least_conjunction hi hc) (fun p _ l r => ⟨rfl, ?_, rfl⟩) h
  simp [Tree.tokens, Tree.size]

theorem least_expression (hi : LeastInner inner n) (h : Expression inner w x) :
    Least 1 n w x := by
  cases h with
  | plain disjunction => exact (least_disjunction hi disjunction).lower (by decide)
  | @choice u c v yes cond no whenTrue condition otherwise =>
      obtain ⟨hyes, hyes'⟩ := least_disjunction hi whenTrue
      obtain ⟨hcond, hcond'⟩ := least_disjunction hi condition
      have hno := hi.of_expression otherwise
      have hlength : (Tree.choose cond yes no).tokens.length =
          yes.size 2 + (cond.size 2 + (no.tokens.length + 1) + 1) := by
        simp [Tree.tokens, Tree.size]
      have hlevels : (Tree.choose cond yes no).levels =
          max (yes.depth 2) (max (cond.depth 2) (no.levels + 1)) := rfl
      apply least_of_le (Nat.le_refl 1)
      · simp only [hlength, List.length_append, List.length_cons]
        omega
      · simp only [hlength, hlevels, List.length_append, List.length_cons]
        omega

/-- The phrases of every level are no less than what is written. -/
theorem leastInner_phrases : ∀ n, LeastInner (phrases n) n
  | 0 => ⟨fun _ _ h => absurd h id, fun _ _ h => absurd h id, fun _ _ h => absurd h id⟩
  | n + 1 =>
    have hi := leastInner_phrases n
    ⟨fun _ _ h => ⟨n, rfl, least_expression hi h⟩, fun _ _ h => ⟨n, rfl, least_negation hi h⟩,
      fun _ _ h => ⟨n, rfl, least_signed hi h⟩⟩

/-- **What is written for a tree is the least phrase that stands for it.**  No other one has
fewer tokens, and one with as few needs as many levels. -/
theorem least_of_phrase (h : (phrases n).expression w x) :
    x.tokens.length ≤ w.length ∧ (w.length = x.tokens.length → x.levels + 1 ≤ n) := by
  have hleast := (leastInner_phrases n).of_expression h
  exact ⟨hleast.1, fun he => hleast.2 (Nat.le_of_eq he)⟩

end Fanout.Expr
