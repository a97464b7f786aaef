/-
  Fanout.Proofs.Expr.Print
  ────────────────────────
  **Writing a tree down with as few parentheses as possible.**

  Every kind of tree has a *rank* that says how tightly it binds, and every
  place of an operand has a rank that what stands there must have without
  parentheses:

      1  yes if cond else no          6  + -
      2  or                           7  * / // %
      3  and                          8  signs
      4  not                          9  **
      5  == != < <= > >=             10  everything else

  `Tree.tokens` puts parentheses around an operand exactly when its rank is
  below that of its place; `Tree.print` sets the tokens apart by single
  spaces.  `Tree.levels` counts the levels that the tokens open inside each
  other.

    • `plain_of_mem_tokens` — the tokens of a writable tree are plain ones,
      which are read as they are printed,
    • `lex_print` — the tokens of the written text are the tokens written.
-/
import Fanout.Proofs.Expr.Spelling

namespace Fanout.Expr

open Fanout.Number

/-! ## §1. Operators. -/

/-- How an operator before its operand is written. -/
def UnaryOp.sign : UnaryOp → Symbol
  | .neg => .minus
  | .pos => .plus
  | .not => .notWord

/-- How an arithmetic operator is written. -/
def BinaryOp.sign : BinaryOp → Symbol
  | .add => .plus
  | .sub => .minus
  | .mul => .star
  | .div => .slash
  | .floorDiv => .doubleSlash
  | .mod => .percent
  | .pow => .doubleStar

/-- How a comparison operator is written. -/
def CompareOp.sign : CompareOp → Symbol
  | .eq => .eqEq
  | .ne => .notEq
  | .lt => .less
  | .le => .lessEq
  | .gt => .greater
  | .ge => .greaterEq

/-- The rank of an operator before its operand, which is that of the operand's place too. -/
def UnaryOp.rank : UnaryOp → Nat
  | .neg | .pos => 8
  | .not => 4

/-- The rank of an arithmetic operator. -/
def BinaryOp.rank : BinaryOp → Nat
  | .add | .sub => 6
  | .mul | .div | .floorDiv | .mod => 7
  | .pow => 9

/-- The rank of the place before an arithmetic operator. -/
def BinaryOp.leftRank : BinaryOp → Nat
  | .pow => 10
  | op => op.rank

/-- The rank of the place behind an arithmetic operator. -/
def BinaryOp.rightRank : BinaryOp → Nat
  | .pow => 8
  | op => op.rank + 1

/-- The levels that the operand behind an arithmetic operator opens. -/
def BinaryOp.opened : BinaryOp → Nat
  | .pow => 1
  | _ => 0

/-- The rank of a tree. -/
def Tree.rank : Tree → Nat
  | .choose .. => 1
  | .either .. => 2
  | .both .. => 3
  | .compare .. => 5
  | .unary op _ => op.rank
  | .binary op _ _ => op.rank
  | .literal _ | .name _ | .call .. | .attribute .. | .index .. => 10

/-! ## §2. Tokens. -/

/-- Tokens of the rank `own` in a place of the rank `required`. -/
def enclosed (required own : Nat) (w : List Token) : List Token :=
  if own < required then .symbol .leftParen :: (w ++ [.symbol .rightParen]) else w

/-- The levels that tokens of the rank `own` open in a place of the rank `required`, where they
open `n` without parentheses. -/
def deepened (required own n : Nat) : Nat := if own < required then n + 1 else n

/-- A value written out; there is nothing to write for one that only a computation gives. -/
def literalTokens : Value → List Token
  | .none => [.symbol .noneWord]
  | .bool true => [.symbol .trueWord]
  | .bool false => [.symbol .falseWord]
  | .int n => [.int n]
  | .float x => [.float x]
  | .str s => [.str s]
  | .dateTime _ | .duration _ | .builtin _ => []

mutual

/-- The tokens of a tree. -/
def Tree.tokens : Tree → List Token
  | .literal v => literalTokens v
  | .name n => [.ident n]
  | .unary op x => .symbol op.sign :: enclosed op.rank x.rank x.tokens
  | .binary op l r =>
    enclosed op.leftRank l.rank l.tokens ++
      .symbol op.sign :: enclosed op.rightRank r.rank r.tokens
  | .both l r => enclosed 3 l.rank l.tokens ++ .symbol .andWord :: enclosed 4 r.rank r.tokens
  | .either l r => enclosed 2 l.rank l.tokens ++ .symbol .orWord :: enclosed 3 r.rank r.tokens
  | .compare x rest => enclosed 6 x.rank x.tokens ++ comparisonTokens rest
  | .choose cond yes no =>
    enclosed 2 yes.rank yes.tokens ++
      .symbol .ifWord :: (enclosed 2 cond.rank cond.tokens ++ .symbol .elseWord :: no.tokens)
  | .call f args =>
    enclosed 10 f.rank f.tokens ++
      .symbol .leftParen :: (argumentTokens args ++ [.symbol .rightParen])
  | .attribute x attr => enclosed 10 x.rank x.tokens ++ [.symbol .dot, .ident attr]
  | .index x i =>
    enclosed 10 x.rank x.tokens ++ .symbol .leftBracket :: (i.tokens ++ [.symbol .rightBracket])

/-- The tokens of the comparisons behind the first operand of a chain. -/
def comparisonTokens : List (CompareOp × Tree) → List Token
  | [] => []
  | (op, x) :: rest => .symbol op.sign :: (enclosed 6 x.rank x.tokens ++ comparisonTokens rest)

/-- The tokens of arguments, with commas between them. -/
def argumentTokens : List Tree → List Token
  | [] => []
  | [x] => x.tokens
  | x :: xs => x.tokens ++ .symbol .comma :: argumentTokens xs

end

mutual

/-- The number of levels that the tokens of a tree open inside each other. -/
def Tree.levels : Tree → Nat
  | .literal _ | .name _ => 0
  | .unary op x => deepened op.rank x.rank x.levels + 1
  | .binary op l r =>
    max (deepened op.leftRank l.rank l.levels) (deepened op.rightRank r.rank r.levels + op.opened)
  | .both l r => max (deepened 3 l.rank l.levels) (deepened 4 r.rank r.levels)
  | .either l r => max (deepened 2 l.rank l.levels) (deepened 3 r.rank r.levels)
  | .compare x rest => max (deepened 6 x.rank x.levels) (comparisonLevels rest)
  | .choose cond yes no =>
    max (deepened 2 yes.rank yes.levels) (max (deepened 2 cond.rank cond.levels) (no.levels + 1))
  | .call f args => max (deepened 10 f.rank f.levels) (argumentLevels args)
  | .attribute x _ => deepened 10 x.rank x.levels
  | .index x i => max (deepened 10 x.rank x.levels) (i.levels + 1)

/-- The levels that the comparisons behind the first operand of a chain open. -/
def comparisonLevels : List (CompareOp × Tree) → Nat
  | [] => 0
  | (_, x) :: rest => max (deepened 6 x.rank x.levels) (comparisonLevels rest)

/-- The levels that arguments open. -/
def argumentLevels : List Tree → Nat
  | [] => 0
  | x :: xs => max (x.levels + 1) (argumentLevels xs)

end

/-! ## §3. Texts. -/

/-- The kinds of quotes around a text. -/
inductive Quote where
  | double | single
  deriving DecidableEq, Repr

/-- A kind of quotes as a character. -/
def Quote.char : Quote → Char
  | .double => '"'
  | .single => '\''

/-- A token as it is printed, with the first spelling of a symbol. -/
def Token.text (q : Quote) : Token → List Char
  | .int n => intDigits n.toInt
  | .float x => (floatText x).toList
  | .str s => quotedBy q.char s.toList
  | .ident n => n.toList
  | .symbol s => (s.spellings.headD "").toList

/-- A tree as it is printed. -/
def Tree.print (q : Quote) (x : Tree) : String :=
  String.ofList ([' '].intercalate (x.tokens.map (Token.text q)))

/-- Trees that expressions without floats stand for. -/
inductive Writable : Tree → Prop where
  | int {n : Int64} (natural : 0 ≤ n.toInt) : Writable (.literal (.int n))
  | str (s : String) : Writable (.literal (.str s))
  | bool (b : Bool) : Writable (.literal (.bool b))
  | none : Writable (.literal .none)
  | name {n : String} (free : IsFreeName n) : Writable (.name n)
  | unary (op : UnaryOp) {x : Tree} (operand : Writable x) : Writable (.unary op x)
  | binary (op : BinaryOp) {l r : Tree} (left : Writable l) (right : Writable r) :
      Writable (.binary op l r)
  | both {l r : Tree} (left : Writable l) (right : Writable r) : Writable (.both l r)
  | either {l r : Tree} (left : Writable l) (right : Writable r) : Writable (.either l r)
  | compare {x : Tree} {rest : List (CompareOp × Tree)} (first : Writable x)
      (others : ∀ p ∈ rest, Writable p.2) (some : rest ≠ []) : Writable (.compare x rest)
  | choose {cond yes no : Tree} (condition : Writable cond) (whenTrue : Writable yes)
      (otherwise : Writable no) : Writable (.choose cond yes no)
  | call {f : Tree} {args : List Tree} (callee : Writable f) (arguments : ∀ x ∈ args, Writable x) :
      Writable (.call f args)
  | attr {x : Tree} {attr : String} (receiver : Writable x) (free : IsFreeName attr) :
      Writable (.attribute x attr)
  | index {x i : Tree} (target : Writable x) (position : Writable i) : Writable (.index x i)

/-! ## §4. Plain tokens. -/

/-- Tokens that are printed as they are spelled. -/
inductive Token.Plain : Token → Prop where
  | int {n : Int64} (natural : 0 ≤ n.toInt) : Token.Plain (.int n)
  | str (s : String) : Token.Plain (.str s)
  | ident {n : String} (free : IsFreeName n) : Token.Plain (.ident n)
  | symbol (s : Symbol) : Token.Plain (.symbol s)

/-- The digits of a number spell it. -/
theorem spells_intDigits {n : Int64} (h : 0 ≤ n.toInt) : Spells (intDigits n.toInt) (.int n) := by
  have hdigits : intDigits n.toInt = digitsOf n.toInt.natAbs := if_neg (Int.not_lt.mpr h)
  have hall : ∀ c ∈ digitsOf n.toInt.natAbs, c.isDigit = true := fun _ hc =>
    Nat.isDigit_of_mem_toDigits (by decide) (by decide) hc
  have hvalue : digitsValue (digitsOf n.toInt.natAbs) = n.toInt.natAbs :=
    Nat.ofDigitChars_ten_toDigits
  rw [hdigits]
  cases hw : digitsOf n.toInt.natAbs with
  | nil => exact absurd hw Nat.toDigits_ne_nil
  | cons c cs =>
      rw [hw] at hall hvalue
      refine .int (hall c List.mem_cons_self) ?_ ?_
      · intro d hd
        exact isNumberChar_of_isDigit (hall d (List.mem_cons_of_mem c hd))
      · -- there are no underscores to drop
        have hdrop : dropUnderscores (c :: cs) = c :: cs := by
          apply List.filter_eq_self.mpr
          intro d hd
          rw [bne_iff_ne]
          rintro rfl
          exact absurd (hall _ hd) (by decide)
        rw [hdrop, hvalue]
        omega

theorem Token.Plain.spells {t : Token} (h : t.Plain) (q : Quote) : Spells (t.text q) t := by
  cases h with
  | int natural => exact spells_intDigits natural
  | str s => exact .str (by cases q <;> simp [Quote.char]) s
  | ident free => exact .ident free
  | symbol s => exact .symbol (by cases s <;> simp [Symbol.spellings])

/-- Parentheses add plain tokens only. -/
theorem plain_enclosed {required own : Nat} {w : List Token} (h : ∀ t ∈ w, t.Plain) :
    ∀ t ∈ enclosed required own w, t.Plain := by
  unfold enclosed
  by_cases hlow : own < required
  · rw [if_pos hlow, List.forall_mem_cons, List.forall_mem_append, List.forall_mem_singleton]
    exact ⟨.symbol _, h, .symbol _⟩
  · rw [if_neg hlow]
    exact h

theorem plain_argumentTokens :
    ∀ {xs : List Tree}, (∀ x ∈ xs, ∀ t ∈ x.tokens, t.Plain) → ∀ t ∈ argumentTokens xs, t.Plain
  | [], _ => by simp [argumentTokens]
  | [x], h => h x List.mem_cons_self
  | x :: y :: xs, h => by
      show ∀ t ∈ x.tokens ++ .symbol .comma :: argumentTokens (y :: xs), t.Plain
      rw [List.forall_mem_append, List.forall_mem_cons]
      exact ⟨h x List.mem_cons_self, .symbol _,
        plain_argumentTokens fun z hz => h z (List.mem_cons_of_mem x hz)⟩

theorem plain_comparisonTokens :
    ∀ {rest : List (CompareOp × Tree)}, (∀ p ∈ rest, ∀ t ∈ p.2.tokens, t.Plain) →
      ∀ t ∈ comparisonTokens rest, t.Plain
  | [], _ => by simp [comparisonTokens]
  | (op, x) :: rest, h => by
      rw [comparisonTokens, List.forall_mem_cons, List.forall_mem_append]
      exact ⟨.symbol _, plain_enclosed (h _ List.mem_cons_self),
        plain_comparisonTokens fun p hp => h p (List.mem_cons_of_mem _ hp)⟩

/-- The tokens of a writable tree are plain. -/
theorem plain_of_mem_tokens {x : Tree} (h : Writable x) : ∀ t ∈ x.tokens, t.Plain := by
  induction h with
  | int natural => exact List.forall_mem_singleton.mpr (.int natural)
  | str s => exact List.forall_mem_singleton.mpr (.str s)
  | bool b => cases b <;> exact List.forall_mem_singleton.mpr (.symbol _)
  | none => exact List.forall_mem_singleton.mpr (.symbol _)
  | name free => exact List.forall_mem_singleton.mpr (.ident free)
  | unary op _ ih =>
      rw [Tree.tokens, List.forall_mem_cons]
      exact ⟨.symbol _, plain_enclosed ih⟩
  | binary op _ _ ihl ihr | both _ _ ihl ihr | either _ _ ihl ihr =>
      rw [Tree.tokens, List.forall_mem_append, List.forall_mem_cons]
      exact ⟨plain_enclosed ihl, .symbol _, plain_enclosed ihr⟩
  | compare _ _ _ ihx ihrest =>
      rw [Tree.tokens, List.forall_mem_append]
      exact ⟨plain_enclosed ihx, plain_comparisonTokens ihrest⟩
  | choose _ _ _ ihcond ihyes ihno =>
      rw [Tree.tokens, List.forall_mem_append, List.forall_mem_cons, List.forall_mem_append,
        List.forall_mem_cons]
      exact ⟨plain_enclosed ihyes, .symbol _, plain_enclosed ihcond, .symbol _, ihno⟩
  | call _ _ ihf ihargs =>
      rw [Tree.tokens, List.forall_mem_append, List.forall_mem_cons, List.forall_mem_append,
        List.forall_mem_singleton]
      exact ⟨plain_enclosed ihf, .symbol _, plain_argumentTokens ihargs, .symbol _⟩
  | attr _ free ih =>
      rw [Tree.tokens, List.forall_mem_append, List.forall_mem_cons, List.forall_mem_singleton]
      exact ⟨plain_enclosed ih, .symbol _, .ident free⟩
  | index _ _ ihx ihi =>
      rw [Tree.tokens, List.forall_mem_append, List.forall_mem_cons, List.forall_mem_append,
        List.forall_mem_singleton]
      exact ⟨plain_enclosed ihx, .symbol _, ihi, .symbol _⟩

/-! ## §5. Reading the text. -/

/-- Plain tokens with single spaces between them are spaced, whatever separators come first. -/
theorem spaced_intercalate (q : Quote) {gap : List Char} (hgap : ∀ c ∈ gap, isSeparator c = true) :
    ∀ {ts : List Token}, (∀ t ∈ ts, t.Plain) →
      Spaced (gap ++ [' '].intercalate (ts.map (Token.text q))) ts
  | [], _ => by
      rw [List.map_nil, List.intercalate_nil, List.append_nil]
      exact .blank hgap
  | [t], h => by
      have halone := ((h t List.mem_cons_self).spells q).spaced hgap
      simpa using halone
  | t :: u :: ts, h => by
      have hspace : ∀ c ∈ [' '], isSeparator c = true := by simp [isSeparator]
      have hothers := spaced_intercalate q hspace fun v hv => h v (List.mem_cons_of_mem t hv)
      have hapart : Apart ([' '] ++ [' '].intercalate ((u :: ts).map (Token.text q))) :=
        apart_cons rfl _
      have hfirst := Spaced.token hgap ((h t List.mem_cons_self).spells q) hapart hothers
      simpa using hfirst

theorem tokens_ne_nil {x : Tree} (h : Writable x) : x.tokens ≠ [] := by
  cases h with
  | bool b => cases b <;> simp [Tree.tokens, literalTokens]
  | @compare x rest _ _ some =>
      cases rest with
      | nil => exact absurd rfl some
      | cons p rest => simp [Tree.tokens, comparisonTokens]
  | _ => simp [Tree.tokens, literalTokens]

/-- **The tokens of a printed tree are the tokens of the tree.** -/
theorem lex_print {x : Tree} (h : Writable x) (q : Quote) :
    ∃ items stop, lex (x.print q).toList = .ok ⟨items, stop⟩ ∧ tokensOf items = x.tokens := by
  have hblank : ∀ c ∈ ([] : List Char), isSeparator c = true := by simp
  have hspaced := spaced_intercalate q hblank (plain_of_mem_tokens h)
  rw [Tree.print, String.toList_ofList]
  exact lex_of_spaced hspaced (tokens_ne_nil h)

end Fanout.Expr
