/-
  Fanout.Proofs.Expr.Completeness
  ───────────────────────────────
  **Every phrase is read, and nothing else.**

  A parser reads a phrase of its form off the front of the tokens whenever
  what follows does not continue the phrase (`Complete`).  What continues a
  phrase is told by one number for each token, its `grip`: a token continues
  the phrases that bind at least as tightly as it does.  With the soundness
  of the parsers this gives

    • `parseTokens_eq_ok_iff` — tokens are parsed to a tree exactly when
      the grammar derives the tree from them, and it derives no other.
-/
import Fanout.Proofs.Expr.Soundness

namespace Fanout.Expr

open Phrase

/-! ## §1. What continues a phrase. -/

/-- How loosely a token binds to the operand in front of it; 9 if not at all. -/
def grip : Token → Nat
  | .str _ => 0
  | .symbol .leftParen | .symbol .dot | .symbol .leftBracket => 1
  | .symbol .doubleStar => 2
  | .symbol .star | .symbol .slash | .symbol .doubleSlash | .symbol .percent => 3
  | .symbol .plus | .symbol .minus => 4
  | .symbol .eqEq | .symbol .notEq => 5
  | .symbol .less | .symbol .lessEq | .symbol .greater | .symbol .greaterEq => 5
  | .symbol .andWord => 6
  | .symbol .orWord => 7
  | .symbol .ifWord => 8
  | _ => 9

/-- The tokens do not begin with one that binds as tightly as `k`. -/
def Free (k : Nat) (ts : List Located) : Prop := ∀ t ∈ ts.head?, k < grip t.token

theorem free_nil (k : Nat) : Free k [] := by
  intro t ht
  cases ht

theorem free_cons {k : Nat} (t : Located) (ts : List Located) (h : k < grip t.token) :
    Free k (t :: ts) := by
  intro u hu
  cases hu
  exact h

theorem Free.head {k : Nat} {t : Located} {ts : List Located} (h : Free k (t :: ts)) :
    k < grip t.token := h t rfl

theorem Free.mono {j k : Nat} {ts : List Located} (h : Free k ts) (hjk : j ≤ k) : Free j ts :=
  fun t ht => Nat.lt_of_le_of_lt hjk (h t ht)

/-- A parser reads every phrase of a form that is not continued by a token that binds as
tightly as `k`. -/
def Complete (k : Nat) (p : Parser Tree) (F : Form) : Prop :=
  ∀ ⦃us rest : List Located⦄ ⦃x : Tree⦄, F (tokensOf us) x → Free k rest →
    p (us ++ rest) = .ok (x, rest)

/-- The parsers for what opens a level are complete. -/
structure CompleteLevel (l : Level) (inner : Inner) : Prop where
  expression : Complete 8 l.expression inner.expression
  negated : Complete 5 l.negated inner.negation
  signed : Complete 2 l.signed inner.signed
  /-- No expression begins with a closing parenthesis. -/
  begins : ∀ w x, inner.expression w x → BeginsWithin 2 w

/-! ## §2. Symbols. -/

theorem after?_cons {s : Symbol} {t : Located} (h : t.token = .symbol s) (ts : List Located) :
    after? s (t :: ts) = some ts := by
  simp [after?, h]

theorem require_cons {stop : Nat} {s : Symbol} {expected : Expected} {t : Located}
    (h : t.token = .symbol s) (ts : List Located) : require stop s expected (t :: ts) = .ok ts := by
  simp [require, after?_cons h]

/-- A symbol that would continue a phrase is not there. -/
theorem after?_of_free {k : Nat} {s : Symbol} {ts : List Located} (h : Free k ts)
    (hs : grip (.symbol s) ≤ k) : after? s ts = none := by
  cases ts with
  | nil => rfl
  | cons t ts =>
      have ht : ¬ t.token = .symbol s := by
        intro e
        have hk := h.head
        rw [e] at hk
        omega
      simp [after?, ht]

/-- A symbol that begins only looser phrases does not begin a phrase. -/
theorem after?_of_begins {k : Nat} {s : Symbol} {us : List Located}
    (h : BeginsWithin k (tokensOf us)) (hs : k < opening (.symbol s)) (rest : List Located) :
    after? s (us ++ rest) = none := by
  obtain ⟨t, v, hw, ht⟩ := h
  cases us with
  | nil => cases hw
  | cons u us =>
      injection hw with hu _
      have hne : ¬ u.token = .symbol s := by
        intro e
        rw [← hu, e] at ht
        omega
      simp [after?, hne]

theorem exists_of_tokensOf_append {us : List Located} {w v : List Token}
    (h : tokensOf us = w ++ v) :
    ∃ us₁ us₂, us = us₁ ++ us₂ ∧ tokensOf us₁ = w ∧ tokensOf us₂ = v :=
  List.map_eq_append_iff.mp h

theorem exists_of_tokensOf_cons {us : List Located} {t : Token} {v : List Token}
    (h : tokensOf us = t :: v) : ∃ u us', us = u :: us' ∧ u.token = t ∧ tokensOf us' = v :=
  List.map_eq_cons_iff.mp h

theorem exists_of_tokensOf_singleton {us : List Located} {t : Token} (h : tokensOf us = [t]) :
    ∃ u, us = [u] ∧ u.token = t := by
  obtain ⟨u, us', rfl, hu, hn⟩ := exists_of_tokensOf_cons h
  rw [List.map_eq_nil_iff.mp hn]
  exact ⟨u, rfl, hu⟩

/-! ## §3. Operators with operands. -/

section Chain

variable {ω : Type} {operator? : Token → Option ω} {signs : List (Symbol × ω)}
  {operand : Parser Tree} {Operand : Form} {j k : Nat}

/-- The operators bind as tightly as `k` says. -/
def SignsGrip (signs : List (Symbol × ω)) (k : Nat) : Prop :=
  ∀ p ∈ signs, grip (.symbol p.1) = k

theorem operator?_of_free (hs : ReadsSigns operator? signs) (hg : SignsGrip signs k) {t : Located}
    (h : k < grip t.token) : operator? t.token = none := by
  cases ho : operator? t.token with
  | none => rfl
  | some op =>
      obtain ⟨s, ht, hsign⟩ := (hs _ _).mp ho
      have hk := hg _ hsign
      rw [ht] at h
      simp only at hk
      omega

/-- Operators with operands do not continue an operand that binds tighter. -/
theorem free_operations (hg : SignsGrip signs k) (hjk : j < k) {us rest : List Located}
    {more : List (ω × Tree)} (h : Operations signs Operand (tokensOf us) more)
    (hr : Free k rest) : Free j (us ++ rest) := by
  cases us with
  | nil => exact hr.mono (Nat.le_of_lt hjk)
  | cons u us =>
      apply free_cons
      generalize hw : tokensOf (u :: us) = w at h
      cases h with
      | none => cases hw
      | more sign _ _ =>
          injection hw with hu _
          rw [hu, hg _ sign]
          exact hjk

/-- `operations` reads all operators with operands when its fuel is no less than the tokens. -/
theorem operations_complete (hs : ReadsSigns operator? signs) (hg : SignsGrip signs k)
    (hjk : j < k) (ho : Complete j operand Operand) {w : List Token} {more : List (ω × Tree)}
    (h : Operations signs Operand w more) :
    ∀ {us rest : List Located} (fuel : Nat), tokensOf us = w → Free k rest → us.length ≤ fuel →
      operations operator? operand fuel (us ++ rest) = .ok (more, rest) := by
  induction h with
  | none =>
      intro us rest fuel hu hr _
      rw [List.map_eq_nil_iff.mp hu, List.nil_append]
      -- What follows is no operator, so nothing is read, with or without fuel.
      cases fuel with
      | zero => rfl
      | succ fuel =>
          cases rest with
          | nil => rfl
          | cons t ts => simp only [operations, operator?_of_free hs hg hr.head]
  | @more w v x others s op sign hx hmore ih =>
      intro us rest fuel hu hr hf
      obtain ⟨u, us', rfl, ht, hu'⟩ := exists_of_tokensOf_cons hu
      obtain ⟨us₁, us₂, rfl, h₁, h₂⟩ := exists_of_tokensOf_append hu'
      have hop : operator? u.token = some op := (hs _ _).mpr ⟨s, ht, sign⟩
      -- Behind the operand come operators that bind looser, or what follows all of them.
      have hfree : Free j (us₂ ++ rest) := free_operations hg hjk (h₂ ▸ hmore) hr
      cases fuel with
      | zero => simp at hf
      | succ fuel =>
          have hlen : us₂.length ≤ fuel := by
            simp only [List.length_cons, List.length_append] at hf
            omega
          simp only [List.cons_append, List.append_assoc, operations, hop,
            ho (h₁ ▸ hx) hfree, ih fuel h₂ hr hlen]

/-- `chain` reads an operand and all operators with operands behind it. -/
theorem chain_eq_ok (hs : ReadsSigns operator? signs) (hg : SignsGrip signs k)
    (hjk : j < k) (ho : Complete j operand Operand) (join : Tree → List (ω × Tree) → Tree)
    {us vs rest : List Located} {x : Tree} {more : List (ω × Tree)} (hx : Operand (tokensOf us) x)
    (hm : Operations signs Operand (tokensOf vs) more) (hr : Free k rest) :
    chain operator? join operand (us ++ vs ++ rest) = .ok (join x more, rest) := by
  have hfirst : operand (us ++ (vs ++ rest)) = .ok (x, vs ++ rest) :=
    ho hx (free_operations hg hjk hm hr)
  have hmore := operations_complete hs hg hjk ho hm (vs ++ rest).length rfl hr (by simp)
  simp only [chain, List.append_assoc, hfirst, hmore]

theorem chain_complete (hs : ReadsSigns operator? signs) (hg : SignsGrip signs k)
    (hjk : j < k) (ho : Complete j operand Operand) (node : ω → Tree → Tree → Tree) :
    Complete k (chain operator? (joinLeft node) operand) (Phrase.Chain signs node Operand) := by
  intro us rest x h hr
  obtain ⟨w, x₀, v, more, hw, hx, hm, rfl⟩ := h.exists_operations
  obtain ⟨us₁, us₂, rfl, rfl, rfl⟩ := exists_of_tokensOf_append hw
  exact chain_eq_ok hs hg hjk ho _ hx hm hr

end Chain

/-! ## §4. Operands. -/

/-- `adjoined` takes all texts that stand beside each other. -/
theorem adjoined_append :
    ∀ (ss : List String) {us rest : List Located}, tokensOf us = ss.map .str → Free 0 rest →
      adjoined (us ++ rest) = (String.join ss, rest)
  | [], us, rest, hu, hr => by
      rw [List.map_eq_nil_iff.mp hu, List.nil_append]
      unfold adjoined
      split
      · have h0 := hr.head
        simp [grip] at h0
      · rfl
  | s :: ss, us, rest, hu, hr => by
      obtain ⟨⟨t, p⟩, us', rfl, ht, hu'⟩ := exists_of_tokensOf_cons hu
      simp only at ht
      subst ht
      rw [List.cons_append, adjoined, adjoined_append ss hu' hr, String.join_cons]

variable {l : Level} {inner : Inner} (stop : Nat)

theorem primary_complete (hl : CompleteLevel l inner) :
    Complete 0 (primary stop l) (Primary inner) := by
  intro us rest x h hr
  generalize hw : tokensOf us = w at h
  cases h with
  | texts s more =>
      obtain ⟨⟨t, p⟩, us', rfl, ht, hu'⟩ := exists_of_tokensOf_cons hw
      simp only at ht
      subst ht
      simp only [List.cons_append, primary, adjoined_append more hu' hr]
  | parenthesised inside =>
      obtain ⟨⟨t, p⟩, us', rfl, ht, hu'⟩ := exists_of_tokensOf_cons hw
      obtain ⟨us₁, us₂, rfl, h₁, h₂⟩ := exists_of_tokensOf_append hu'
      obtain ⟨c, rfl, hc⟩ := exists_of_tokensOf_singleton h₂
      simp only at ht
      subst ht
      -- A closing parenthesis continues nothing.
      have hfree : Free 8 (c :: rest) := free_cons c rest (by rw [hc]; decide)
      have hin := hl.expression (h₁ ▸ inside) hfree
      simp only [List.cons_append, List.append_assoc, List.nil_append, primary, hin,
        require_cons hc]
  | _ =>
      obtain ⟨⟨t, p⟩, rfl, ht⟩ := exists_of_tokensOf_singleton hw
      simp only at ht
      subst ht
      rfl

/-- `arguments` reads all arguments and the parenthesis behind them when its fuel is more than
the tokens. -/
theorem arguments_complete (hl : CompleteLevel l inner) {w : List Token} {xs : List Tree}
    (h : Arguments inner w xs) :
    ∀ {us rest : List Located} {c : Located} (fuel : Nat), tokensOf us = w →
      c.token = .symbol .rightParen → us.length < fuel →
      arguments stop l fuel (us ++ c :: rest) = .ok (xs, rest) := by
  induction h with
  | @last w x argument =>
      intro us rest c fuel hu hc hf
      obtain ⟨fuel, rfl⟩ : ∃ n, fuel = n + 1 := ⟨fuel - 1, by omega⟩
      have hx := hl.expression (hu ▸ argument) (free_cons c rest (by rw [hc]; decide))
      have hcomma : after? .comma (c :: rest) = none := by simp [after?, hc]
      simp only [arguments, hx, hcomma, require_cons hc]
  | @lastWithComma w x argument =>
      intro us rest c fuel hu hc hf
      obtain ⟨fuel, rfl⟩ : ∃ n, fuel = n + 1 := ⟨fuel - 1, by omega⟩
      obtain ⟨us₁, us₂, rfl, h₁, h₂⟩ := exists_of_tokensOf_append hu
      obtain ⟨d, rfl, hd⟩ := exists_of_tokensOf_singleton h₂
      have hx := hl.expression (h₁ ▸ argument)
        (free_cons d (c :: rest) (by rw [hd]; decide))
      simp only [List.append_assoc, List.cons_append, List.nil_append, arguments, hx,
        after?_cons hd, after?_cons hc]
  | @more w v x xs argument others ih =>
      intro us rest c fuel hu hc hf
      obtain ⟨fuel, rfl⟩ : ∃ n, fuel = n + 1 := ⟨fuel - 1, by omega⟩
      obtain ⟨us₁, us₂, rfl, h₁, h₂⟩ := exists_of_tokensOf_append hu
      obtain ⟨d, us₃, rfl, hd, h₃⟩ := exists_of_tokensOf_cons h₂
      have hx := hl.expression (h₁ ▸ argument)
        (free_cons d (us₃ ++ c :: rest) (by rw [hd]; decide))
      -- Another argument follows the comma, so that the parenthesis is not there yet.
      have hbegins : BeginsWithin 2 (tokensOf us₃) := h₃ ▸ beginsWithin_arguments hl.begins others
      have hclose := after?_of_begins (s := .rightParen) hbegins (by decide) (c :: rest)
      have hmore := @ih us₃ rest c fuel h₃ hc
        (by simp only [List.length_append, List.length_cons] at hf; omega)
      simp only [List.append_assoc, List.cons_append, arguments, hx, after?_cons hd, hclose, hmore]

/-- Without a token that attaches something, `suffixes` leaves an operand as it is. -/
theorem suffixes_of_free {rest : List Located} (hr : Free 1 rest) (fuel : Nat) (x : Tree) :
    suffixes stop l fuel x rest = .ok (x, rest) := by
  cases fuel with
  | zero => rfl
  | succ fuel =>
      unfold suffixes
      split
      case h_5 => rfl
      all_goals
        have h1 := hr.head
        simp [grip] at h1

/-- What is attached to an operand begins with a token that binds as tightly as 1. -/
theorem exists_of_suffix {v : List Token} {f : Tree → Tree} (h : Suffix inner v f) :
    ∃ t r, v = t :: r ∧ grip t = 1 := by
  cases h <;> exact ⟨_, _, rfl, rfl⟩

/-- `suffixes` reads one thing that is attached and goes on. -/
theorem suffixes_step (hl : CompleteLevel l inner) {v : List Token} {f : Tree → Tree}
    (h : Suffix inner v f) {us : List Located} (hu : tokensOf us = v) (rest : List Located)
    (fuel : Nat) (x : Tree) :
    suffixes stop l (fuel + 1) x (us ++ rest) = suffixes stop l fuel (f x) rest := by
  cases h with
  | callWithout =>
      obtain ⟨⟨t, p⟩, us', rfl, ht, hu'⟩ := exists_of_tokensOf_cons hu
      obtain ⟨c, rfl, hc⟩ := exists_of_tokensOf_singleton hu'
      simp only at ht
      subst ht
      simp only [List.cons_append, List.nil_append, suffixes, after?_cons hc]
  | @call v args arguments =>
      obtain ⟨⟨t, p⟩, us', rfl, ht, hu'⟩ := exists_of_tokensOf_cons hu
      obtain ⟨us₁, us₂, rfl, h₁, h₂⟩ := exists_of_tokensOf_append hu'
      obtain ⟨c, rfl, hc⟩ := exists_of_tokensOf_singleton h₂
      simp only at ht
      subst ht
      have hbegins : BeginsWithin 2 (tokensOf us₁) :=
        h₁ ▸ beginsWithin_arguments hl.begins arguments
      have hclose := after?_of_begins (s := .rightParen) hbegins (by decide) (c :: rest)
      have hlength : us₁.length < (us₁ ++ c :: rest).length + 1 := by
        simp only [List.length_append]
        omega
      have hargs := @arguments_complete l inner stop hl _ _ arguments us₁ rest c _ h₁ hc hlength
      simp only [List.cons_append, List.append_assoc, List.nil_append, suffixes, hclose, hargs]
  | attr n =>
      obtain ⟨⟨t, p⟩, us', rfl, ht, hu'⟩ := exists_of_tokensOf_cons hu
      obtain ⟨⟨m, q⟩, rfl, hm⟩ := exists_of_tokensOf_singleton hu'
      simp only at ht hm
      subst ht hm
      simp only [List.cons_append, List.nil_append, suffixes]
  | @index v i position =>
      obtain ⟨⟨t, p⟩, us', rfl, ht, hu'⟩ := exists_of_tokensOf_cons hu
      obtain ⟨us₁, us₂, rfl, h₁, h₂⟩ := exists_of_tokensOf_append hu'
      obtain ⟨c, rfl, hc⟩ := exists_of_tokensOf_singleton h₂
      simp only at ht
      subst ht
      have hi := hl.expression (h₁ ▸ position)
        (free_cons c rest (by rw [hc]; decide))
      simp only [List.cons_append, List.append_assoc, List.nil_append, suffixes, hi,
        require_cons hc]

/-- `suffixes` reads everything that is attached when its fuel is no less than the tokens. -/
theorem suffixes_complete (hl : CompleteLevel l inner) {x y : Tree} {w : List Token}
    (h : Suffixed inner x w y) :
    ∀ {us rest : List Located} (fuel : Nat), tokensOf us = w → Free 1 rest → us.length ≤ fuel →
      suffixes stop l fuel x (us ++ rest) = .ok (y, rest) := by
  induction h with
  | none x =>
      intro us rest fuel hu hr _
      rw [List.map_eq_nil_iff.mp hu, List.nil_append]
      exact suffixes_of_free stop hr fuel x
  | more suffix _ ih =>
      intro us rest fuel hu hr hf
      obtain ⟨us₁, us₂, rfl, h₁, h₂⟩ := exists_of_tokensOf_append hu
      obtain ⟨t, r, hv, -⟩ := exists_of_suffix suffix
      obtain ⟨u, us', rfl, -, -⟩ := exists_of_tokensOf_cons (h₁.trans hv)
      simp only [List.cons_append, List.length_cons, List.length_append] at hf
      obtain ⟨fuel, rfl⟩ : ∃ n, fuel = n + 1 := ⟨fuel - 1, by omega⟩
      rw [List.append_assoc, suffixes_step stop hl suffix h₁]
      exact ih fuel h₂ hr (by omega)

/-- What is attached to an operand does not continue a primary. -/
theorem free_suffixed {x y : Tree} {us rest : List Located}
    (h : Suffixed inner x (tokensOf us) y) (hr : Free 1 rest) : Free 0 (us ++ rest) := by
  generalize hw : tokensOf us = w at h
  cases h with
  | none x =>
      rw [List.map_eq_nil_iff.mp hw]
      exact hr.mono (Nat.zero_le 1)
  | more suffix _ =>
      obtain ⟨t, r, hv, ht⟩ := exists_of_suffix suffix
      rw [hv] at hw
      obtain ⟨u, us', rfl, hu, -⟩ := exists_of_tokensOf_cons hw
      exact free_cons _ _ (by rw [hu, ht]; decide)

theorem postfixed_complete (hl : CompleteLevel l inner) :
    Complete 1 (postfixed stop l) (Postfix inner) := by
  intro us rest x h hr
  obtain ⟨w, x₀, v, hw, hx, hs⟩ := h.exists_suffixed
  obtain ⟨us₁, us₂, rfl, rfl, rfl⟩ := exists_of_tokensOf_append hw
  have hfirst := primary_complete stop hl hx (free_suffixed hs hr)
  have hmore := suffixes_complete stop hl hs (us₂ ++ rest).length rfl hr (by simp)
  simp only [postfixed, List.append_assoc, hfirst, hmore]

theorem powers_complete (hl : CompleteLevel l inner) :
    Complete 2 (powers stop l) (Power inner) := by
  intro us rest x h hr
  generalize hw : tokensOf us = w at h
  cases h with
  | base base =>
      have hb := postfixed_complete stop hl (hw ▸ base) (hr.mono (by decide))
      simp only [powers, hb, after?_of_free hr (s := .doubleStar) (by decide)]
  | raised base exponent =>
      obtain ⟨us₁, us₂, rfl, h₁, h₂⟩ := exists_of_tokensOf_append hw
      obtain ⟨t, us₃, rfl, ht, h₃⟩ := exists_of_tokensOf_cons h₂
      have hb := postfixed_complete stop hl (h₁ ▸ base)
        (free_cons t (us₃ ++ rest) (by rw [ht]; decide))
      have he := hl.signed (h₃ ▸ exponent) hr
      simp only [List.append_assoc, List.cons_append, powers, hb, after?_cons ht, he]

/-! ## §5. Expressions. -/

theorem signs_complete (hl : CompleteLevel l inner) :
    Complete 2 (signs stop l) (Signed inner) := by
  intro us rest x h hr
  generalize hw : tokensOf us = w at h
  cases h with
  | unsigned power =>
      obtain ⟨t, v, hv, ht⟩ := beginsWithin_power power
      have hp := powers_complete stop hl (hw ▸ power) hr
      rw [hv] at hw
      obtain ⟨u, us', rfl, hu, -⟩ := exists_of_tokensOf_cons hw
      have hnone : signOp? u.token = none := by
        cases ho : signOp? u.token with
        | none => rfl
        | some op =>
            obtain ⟨s, hs, hsign⟩ := (readsSigns_signOp? _ _).mp ho
            rw [← hu, hs, opening_of_unarySigns hsign] at ht
            omega
      simp only [List.cons_append, signs, hnone]
      exact hp
  | sign sign operand =>
      obtain ⟨u, us', rfl, hu, hu'⟩ := exists_of_tokensOf_cons hw
      have hop := (readsSigns_signOp? _ _).mpr ⟨_, hu, sign⟩
      have hx := hl.signed (hu' ▸ operand) hr
      simp only [List.cons_append, signs, hop, hx]

theorem products_complete (hl : CompleteLevel l inner) :
    Complete 3 (products stop l) (Product inner) :=
  chain_complete readsSigns_productOp? (by simp [SignsGrip, productSigns, grip]) (by decide)
    (signs_complete stop hl) _

theorem sums_complete (hl : CompleteLevel l inner) : Complete 4 (sums stop l) (Sum inner) :=
  chain_complete readsSigns_sumOp? (by simp [SignsGrip, sumSigns, grip]) (by decide)
    (products_complete stop hl) _

theorem comparisons_complete (hl : CompleteLevel l inner) :
    Complete 5 (comparisons stop l) (Comparison inner) := by
  intro us rest x h hr
  have hg : SignsGrip compareSigns 5 := by simp [SignsGrip, compareSigns, grip]
  have hs := sums_complete stop hl
  generalize hw : tokensOf us = w at h
  cases h with
  | single operand =>
      have hnone : Operations compareSigns (Sum inner) (tokensOf []) [] := .none
      have hc := chain_eq_ok readsSigns_compareOp? hg (by decide) hs joinCompare
        (hw ▸ operand) hnone hr
      rw [List.append_nil] at hc
      exact hc
  | @chain w v x more first others some =>
      obtain ⟨us₁, us₂, rfl, h₁, h₂⟩ := exists_of_tokensOf_append hw
      have hc := chain_eq_ok readsSigns_compareOp? hg (by decide) hs joinCompare
        (h₁ ▸ first) (h₂ ▸ others) hr
      have hj : joinCompare x more = .compare x more := by simp [joinCompare, some]
      rw [hj] at hc
      exact hc

theorem negations_complete (hl : CompleteLevel l inner) :
    Complete 5 (negations stop l) (Negation inner) := by
  intro us rest x h hr
  generalize hw : tokensOf us = w at h
  cases h with
  | comparison comparison =>
      -- No comparison begins with a negation.
      have hbegins : BeginsWithin 1 (tokensOf us) := hw ▸ beginsWithin_comparison comparison
      have hnot := after?_of_begins (s := .notWord) hbegins (by decide) rest
      have hc := comparisons_complete stop hl (hw ▸ comparison) hr
      simp only [negations, hnot, hc]
  | not operand =>
      obtain ⟨u, us', rfl, hu, hu'⟩ := exists_of_tokensOf_cons hw
      have hx := hl.negated (hu' ▸ operand) hr
      simp only [List.cons_append, negations, after?_cons hu, hx]

theorem conjunctions_complete (hl : CompleteLevel l inner) :
    Complete 6 (conjunctions stop l) (Conjunction inner) :=
  chain_complete (readsSigns_symbolOp? .andWord) (by simp [SignsGrip, grip]) (by decide)
    (negations_complete stop hl) fun _ => .both

theorem disjunctions_complete (hl : CompleteLevel l inner) :
    Complete 7 (disjunctions stop l) (Disjunction inner) :=
  chain_complete (readsSigns_symbolOp? .orWord) (by simp [SignsGrip, grip]) (by decide)
    (conjunctions_complete stop hl) fun _ => .either

theorem choices_complete (hl : CompleteLevel l inner) :
    Complete 8 (choices stop l) (Expression inner) := by
  intro us rest x h hr
  have hd := disjunctions_complete stop hl
  generalize hw : tokensOf us = w at h
  cases h with
  | plain disjunction =>
      have hx := hd (hw ▸ disjunction) (hr.mono (by decide))
      simp only [choices, hx, after?_of_free hr (s := .ifWord) (by decide)]
  | choice whenTrue condition otherwise =>
      obtain ⟨us₁, us₂, rfl, h₁, h₂⟩ := exists_of_tokensOf_append hw
      obtain ⟨i, us₃, rfl, hi, h₃⟩ := exists_of_tokensOf_cons h₂
      obtain ⟨us₄, us₅, rfl, h₄, h₅⟩ := exists_of_tokensOf_append h₃
      obtain ⟨e, us₆, rfl, he, h₆⟩ := exists_of_tokensOf_cons h₅
      -- The words between the three parts bind looser than the parts in front of them.
      have hyes := hd (h₁ ▸ whenTrue)
        (free_cons i (us₄ ++ e :: (us₆ ++ rest)) (by rw [hi]; decide))
      have hcond := hd (h₄ ▸ condition)
        (free_cons e (us₆ ++ rest) (by rw [he]; decide))
      have hno := hl.expression (h₆ ▸ otherwise) hr
      simp only [List.append_assoc, List.cons_append, choices, hyes, after?_cons hi, hcond,
        require_cons he, hno]

/-! ## §6. Levels. -/

/-- **The parsers of every level read all phrases of that level.** -/
theorem completeLevel_parsers (stop : Nat) : ∀ n, CompleteLevel (parsers stop n) (phrases n)
  | 0 =>
    ⟨fun _ _ _ h _ => absurd h id, fun _ _ _ h _ => absurd h id, fun _ _ _ h _ => absurd h id,
      beginsWithin_phrases 0⟩
  | n + 1 =>
    have hl := completeLevel_parsers stop n
    ⟨choices_complete stop hl, negations_complete stop hl, signs_complete stop hl,
      beginsWithin_phrases (n + 1)⟩

theorem parseTokens_of_phrase (ts : Tokens) {e : Tree}
    (h : (phrases maxNesting).expression (tokensOf ts.items) e) : parseTokens ts = .ok e := by
  have hx := (completeLevel_parsers ts.stop maxNesting).expression h (free_nil 8)
  rw [List.append_nil] at hx
  simp only [parseTokens, hx]

theorem phrase_of_parseTokens {ts : Tokens} {e : Tree} (h : parseTokens ts = .ok e) :
    (phrases maxNesting).expression (tokensOf ts.items) e := by
  unfold parseTokens at h
  split at h
  · cases h
  · rename_i x hx
    cases h
    obtain ⟨us, hu, hphrase⟩ := (soundLevel_parsers ts.stop maxNesting).expression hx
    rw [hu, List.append_nil]
    exact hphrase
  · exact absurd h reject_ne_ok

/-- **Parsing accepts exactly the grammar.**  Tokens are parsed to a tree if and only if they
are an expression that stands for the tree and never has more than `maxNesting` levels open;
tokens stand for no more than one tree. -/
theorem parseTokens_eq_ok_iff :
    (∀ (ts : Tokens) (e : Tree),
      parseTokens ts = .ok e ↔ (phrases maxNesting).expression (tokensOf ts.items) e)
    ∧ ∀ (w : List Token) (e e' : Tree), (phrases maxNesting).expression w e →
        (phrases maxNesting).expression w e' → e = e' := by
  refine ⟨fun ts e => ⟨phrase_of_parseTokens, parseTokens_of_phrase ts⟩, ?_⟩
  intro w e e' he he'
  -- any positions will do: the parser looks at them only to report them
  obtain ⟨ts, rfl⟩ : ∃ ts, tokensOf ts = w := by
    refine ⟨w.map fun t => ⟨t, 0⟩, ?_⟩
    rw [tokensOf, List.map_map]
    exact List.map_id w
  have h := parseTokens_of_phrase ⟨ts, 0⟩ he
  rw [parseTokens_of_phrase ⟨ts, 0⟩ he'] at h
  exact (Except.ok.inj h).symm

end Fanout.Expr
