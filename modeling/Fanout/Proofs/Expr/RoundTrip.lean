/-
  Fanout.Proofs.Expr.RoundTrip
  ────────────────────────────
  **Printing and parsing.**

  A parser that may open fewer levels does as one that may open more, unless
  it runs out of levels (`Follows`).  What is written for a tree is parsed
  to it when there are levels enough; with `maxNesting` levels it is either
  parsed to the tree or rejected as too deep, and the latter happens exactly
  when it opens too many, because no phrase for the tree opens fewer.

    • `followsLevel_parsers` — the same at every level,
    • `parse_print` — a printed tree is parsed to itself, or is too deep.
-/
import Fanout.Proofs.Expr.Completeness
import Fanout.Proofs.Expr.Minimal

namespace Fanout.Expr

open Phrase

/-! ## §1. Fewer levels. -/

/-- The outcomes agree, unless the first one is that there are too many levels. -/
def Agree {α : Type} (r s : Outcome α) : Prop := r = s ∨ r = .error .nestingTooDeep

/-- A parser does as another one, unless it runs out of levels. -/
def Follows {α : Type} (p q : Parser α) : Prop := ∀ ts, Agree (p ts) (q ts)

/-- The parsers for what opens a level follow others. -/
structure FollowsLevel (l m : Level) : Prop where
  expression : Follows l.expression m.expression
  negated : Follows l.negated m.negated
  signed : Follows l.signed m.signed

theorem agree_refl {α : Type} (r : Outcome α) : Agree r r := .inl rfl

section Chain

variable {ω : Type} {p q : Parser Tree}

theorem follows_operations (operator? : Token → Option ω) (h : Follows p q) (fuel : Nat) :
    Follows (operations operator? p fuel) (operations operator? q fuel) := by
  induction fuel with
  | zero =>
      intro ts
      exact agree_refl _
  | succ fuel ih =>
      intro ts
      cases ts with
      | nil => exact agree_refl _
      | cons t ts =>
          simp only [operations]
          cases operator? t.token with
          | none => exact agree_refl _
          | some op =>
              dsimp only
              -- the operand, and then the other operators
              rcases h ts with hp | hp <;> rw [hp]
              · split
                · exact agree_refl _
                · rename_i x rest _
                  rcases ih rest with hm | hm <;> rw [hm]
                  · exact agree_refl _
                  · exact .inr rfl
              · exact .inr rfl

theorem follows_chain (operator? : Token → Option ω) (join : Tree → List (ω × Tree) → Tree)
    (h : Follows p q) : Follows (chain operator? join p) (chain operator? join q) := by
  intro ts
  unfold chain
  rcases h ts with hp | hp <;> rw [hp]
  · split
    · exact agree_refl _
    · rename_i x rest _
      rcases follows_operations operator? h rest.length rest with hm | hm <;> rw [hm]
      · exact agree_refl _
      · exact .inr rfl
  · exact .inr rfl

end Chain

section Level

variable {l m : Level} (stop : Nat)

theorem follows_arguments (h : FollowsLevel l m) (fuel : Nat) :
    Follows (arguments stop l fuel) (arguments stop m fuel) := by
  induction fuel with
  | zero =>
      intro ts
      exact agree_refl _
  | succ fuel ih =>
      intro ts
      unfold arguments
      rcases h.expression ts with hp | hp <;> rw [hp]
      · split
        · exact agree_refl _
        · rename_i x rest _
          cases after? .comma rest with
          | none => exact agree_refl _
          | some rest =>
              dsimp only
              cases after? .rightParen rest with
              | some rest => exact agree_refl _
              | none =>
                  dsimp only
                  rcases ih rest with hm | hm <;> rw [hm]
                  · exact agree_refl _
                  · exact .inr rfl
      · exact .inr rfl

theorem follows_primary (h : FollowsLevel l m) : Follows (primary stop l) (primary stop m) := by
  intro ts
  unfold primary
  split
  case h_8 p rest =>
    rcases h.expression rest with hp | hp <;> rw [hp]
    · exact agree_refl _
    · exact .inr rfl
  all_goals exact agree_refl _

theorem follows_suffixes (h : FollowsLevel l m) (fuel : Nat) (x : Tree) :
    Follows (suffixes stop l fuel x) (suffixes stop m fuel x) := by
  induction fuel generalizing x with
  | zero =>
      intro ts
      exact agree_refl _
  | succ fuel ih =>
      intro ts
      unfold suffixes
      split
      case h_1 p rest =>
        cases after? .rightParen rest with
        | some rest => exact ih _ rest
        | none =>
            dsimp only
            rcases follows_arguments stop h (rest.length + 1) rest with hp | hp <;> rw [hp]
            · split
              · exact agree_refl _
              · exact ih _ _
            · exact .inr rfl
      case h_2 => exact ih _ _
      case h_3 => exact agree_refl _
      case h_4 p rest =>
        rcases h.expression rest with hp | hp <;> rw [hp]
        · split
          · exact agree_refl _
          · split
            · exact agree_refl _
            · exact ih _ _
        · exact .inr rfl
      case h_5 => exact agree_refl _

theorem follows_postfixed (h : FollowsLevel l m) :
    Follows (postfixed stop l) (postfixed stop m) := by
  intro ts
  unfold postfixed
  rcases follows_primary stop h ts with hp | hp <;> rw [hp]
  · split
    · exact agree_refl _
    · exact follows_suffixes stop h _ _ _
  · exact .inr rfl

theorem follows_powers (h : FollowsLevel l m) : Follows (powers stop l) (powers stop m) := by
  intro ts
  unfold powers
  rcases follows_postfixed stop h ts with hp | hp <;> rw [hp]
  · split
    · exact agree_refl _
    · rename_i base rest _
      cases after? .doubleStar rest with
      | none => exact agree_refl _
      | some rest =>
          dsimp only
          rcases h.signed rest with hs | hs <;> rw [hs]
          · exact agree_refl _
          · exact .inr rfl
  · exact .inr rfl

theorem follows_signs (h : FollowsLevel l m) : Follows (signs stop l) (signs stop m) := by
  intro ts
  cases ts with
  | nil => exact follows_powers stop h []
  | cons t rest =>
      simp only [signs]
      cases signOp? t.token with
      | none => exact follows_powers stop h (t :: rest)
      | some op =>
          dsimp only
          rcases h.signed rest with hs | hs <;> rw [hs]
          · exact agree_refl _
          · exact .inr rfl

theorem follows_comparisons (h : FollowsLevel l m) :
    Follows (comparisons stop l) (comparisons stop m) :=
  follows_chain _ _ (follows_chain _ _ (follows_chain _ _ (follows_signs stop h)))

theorem follows_negations (h : FollowsLevel l m) :
    Follows (negations stop l) (negations stop m) := by
  intro ts
  unfold negations
  cases after? .notWord ts with
  | none => exact follows_comparisons stop h ts
  | some rest =>
      dsimp only
      rcases h.negated rest with hn | hn <;> rw [hn]
      · exact agree_refl _
      · exact .inr rfl

theorem follows_disjunctions (h : FollowsLevel l m) :
    Follows (disjunctions stop l) (disjunctions stop m) :=
  follows_chain _ _ (follows_chain _ _ (follows_negations stop h))

theorem follows_choices (h : FollowsLevel l m) : Follows (choices stop l) (choices stop m) := by
  intro ts
  unfold choices
  rcases follows_disjunctions stop h ts with hp | hp <;> rw [hp]
  · split
    · exact agree_refl _
    · rename_i yes rest _
      cases after? .ifWord rest with
      | none => exact agree_refl _
      | some rest =>
          dsimp only
          rcases follows_disjunctions stop h rest with hc | hc <;> rw [hc]
          · split
            · exact agree_refl _
            · split
              · exact agree_refl _
              · rename_i rest _
                rcases h.expression rest with hn | hn <;> rw [hn]
                · exact agree_refl _
                · exact .inr rfl
          · exact .inr rfl
  · exact .inr rfl

/-- **With fewer levels the parsers do the same or run out of levels.** -/
theorem followsLevel_parsers (more : Nat) :
    ∀ n, FollowsLevel (parsers stop n) (parsers stop (n + more))
  | 0 => ⟨fun _ => .inr rfl, fun _ => .inr rfl, fun _ => .inr rfl⟩
  | n + 1 => by
    have h := followsLevel_parsers more n
    rw [Nat.add_right_comm]
    exact ⟨follows_choices stop h, follows_negations stop h, follows_signs stop h⟩

end Level

/-! ## §2. Printed trees. -/

variable {x : Tree}

/-- The tokens written for a tree are parsed to it, unless they open too many levels. -/
theorem parseTokens_of_fits (h : Fits x) (ts : Tokens) (hts : tokensOf ts.items = x.tokens) :
    parseTokens ts =
      if x.levels + 1 ≤ maxNesting then .ok x else .error .nestingTooDeep := by
  by_cases hn : x.levels + 1 ≤ maxNesting
  · rw [if_pos hn]
    exact parseTokens_of_phrase ts (hts ▸ h.expression hn)
  · rw [if_neg hn]
    -- With levels enough the parser would read the tree.
    obtain ⟨more, hmore⟩ : ∃ more, x.levels + 1 = maxNesting + more :=
      ⟨x.levels + 1 - maxNesting, by omega⟩
    have hphrase : (phrases (maxNesting + more)).expression (tokensOf ts.items) x :=
      hts ▸ h.expression (Nat.le_of_eq hmore)
    have hread := (completeLevel_parsers ts.stop _).expression hphrase (free_nil 8)
    rw [List.append_nil] at hread
    rcases (followsLevel_parsers ts.stop more maxNesting).expression ts.items with hp | hp
    · -- If it did so with fewer, there would be a lesser phrase for the tree.
      have hok : parseTokens ts = .ok x := by simp only [parseTokens, hp, hread]
      have hleast := least_of_phrase (phrase_of_parseTokens hok)
      rw [hts] at hleast
      exact absurd (hleast.2 rfl) hn
    · simp only [parseTokens, hp]

/-- **Parsing undoes printing.**  A tree is parsed from its printed form, with quotes of either
kind, exactly if no more than 64 levels are open at once in that form; otherwise the form is
rejected because of them. -/
theorem parse_print (h : Writable x) (q : Quote) :
    parse (x.print q) = if x.levels + 1 ≤ 64 then .ok x else .error .nestingTooDeep := by
  obtain ⟨items, stop, hlex, hitems⟩ := lex_print h q
  have hparse := parseTokens_of_fits (.of_writable h) ⟨items, stop⟩ hitems
  unfold parse
  rw [hlex]
  exact hparse

/-- The tree of a comparison of a power with a text. -/
def powerBelowQuote : Tree :=
  .compare (.binary .pow (.unary .neg (.name "a")) (.unary .neg (.literal (.int 2))))
    [(.lt, .literal (.str "\""))]

theorem writable_powerBelowQuote : Writable powerBelowQuote := by
  refine .compare (.binary .pow (.unary .neg (.name ⟨by decide, by decide⟩))
    (.unary .neg (.int (by decide)))) ?_ (by decide)
  intro p hp
  rw [List.mem_singleton.mp hp]
  exact .str _

theorem parse_print_powerBelowQuote :
    Writable powerBelowQuote ∧ powerBelowQuote.print .double = "( - a ) ** - 2 < \"\\\"\""
      ∧ powerBelowQuote.levels = 2
      ∧ parse (powerBelowQuote.print .double) = .ok powerBelowQuote := by
  refine ⟨writable_powerBelowQuote, by decide +kernel, by decide, ?_⟩
  rw [parse_print writable_powerBelowQuote .double]
  rfl

end Fanout.Expr
