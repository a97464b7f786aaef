/-
  Fanout.Proofs.Expr.Word
  ───────────────────────
  **Expressions of one token.**

  A literal, a name or a word with a fixed meaning can stand alone as an
  expression.

    • `parse_of_spells` — a literal or a name alone is parsed to itself,
    • `evaluate_name` — a name alone has the value that is bound to it,
    • `evaluate_word` — a word with a fixed meaning keeps it, whatever is
      bound to it.
-/
import Fanout.Expr.Meaning
import Fanout.Proofs.Expr.RoundTrip

namespace Fanout.Expr

/-! ## §1. Literals and names. -/

/-- A text that spells a token is that token. -/
theorem lex_of_spells {text : String} {t : Token} (h : Spells text.toList t) :
    ∃ position stop, lex text.toList = .ok ⟨[⟨t, position⟩], stop⟩ := by
  have hnone : ∀ c ∈ ([] : List Char), isSeparator c = true := by simp
  have hspaced := h.spaced hnone
  rw [List.nil_append] at hspaced
  obtain ⟨items, stop, hlex, hitems⟩ := lex_of_spaced hspaced (List.cons_ne_nil t [])
  obtain ⟨⟨u, position⟩, rfl, hu⟩ := exists_of_tokensOf_singleton hitems
  obtain rfl : u = t := hu
  exact ⟨position, stop, hlex⟩

/-- A literal or a name alone is parsed to itself. -/
theorem parse_of_spells {text : String} {t : Token} {x : Tree} (h : Spells text.toList t)
    (hx : Fits x) (ht : x.tokens = [t]) (hlevels : x.levels = 0) : parse text = .ok x := by
  obtain ⟨position, stop, hlex⟩ := lex_of_spells h
  unfold parse
  rw [hlex]
  have hparse := parseTokens_of_fits hx ⟨[⟨t, position⟩], stop⟩ ht.symm
  rw [hlevels] at hparse
  exact hparse

variable {b : Bindings}

/-- **A name alone has the value that is bound to it**, whatever function has its name. -/
theorem evaluate_name {name : String} (h : IsFreeName name) {v : Value}
    (hv : b.get? name = some v) : evaluate name b = .ok v := by
  have hfits : Fits (.name name) := .of_primary rfl fun _ => .name name
  have hparse : parse name = .ok (.name name) := parse_of_spells (.ident h) hfits rfl rfl
  unfold evaluate
  rw [hparse]
  show (Tree.name name).eval b = _
  rw [Tree.eval, lookup, hv]

/-! ## §2. Words with a fixed meaning. -/

/-- The value that a word stands for, if it stands for one. -/
def wordValue? : Symbol → Option Value
  | .trueWord => some (.bool true)
  | .falseWord => some (.bool false)
  | .noneWord => some .none
  | _ => none

theorem mem_keywords {word : String} {k : Symbol} (h : keywords.lookup word = some k) :
    (word, k) ∈ keywords := by
  obtain ⟨before, behind, hsplit, -⟩ := List.lookup_eq_some_iff.mp h
  rw [hsplit]
  exact List.mem_append_right before List.mem_cons_self

/-- A word with a fixed meaning is spelled as itself. -/
theorem spells_of_lookup {word : String} {k : Symbol} (h : keywords.lookup word = some k) :
    Spells word.toList (.symbol k) := by
  have hall : ∀ p ∈ keywords, p.1 ∈ p.2.spellings := by decide
  exact .symbol (hall (word, k) (mem_keywords h))

/-- A word that stands for a value is parsed to it. -/
theorem parse_of_wordValue? {word : String} {k : Symbol} {w : Value}
    (h : keywords.lookup word = some k) (hw : wordValue? k = some w) :
    parse word = .ok (.literal w) := by
  have hspells := spells_of_lookup h
  cases k with
  | trueWord =>
      obtain rfl := Option.some.inj hw
      exact parse_of_spells hspells (.of_primary rfl fun _ => .true) rfl rfl
  | falseWord =>
      obtain rfl := Option.some.inj hw
      exact parse_of_spells hspells (.of_primary rfl fun _ => .false) rfl rfl
  | noneWord =>
      obtain rfl := Option.some.inj hw
      exact parse_of_spells hspells (.of_primary rfl fun _ => .none) rfl rfl
  | _ => cases hw

/-- A word that stands for no value is no expression. -/
theorem exists_fault_of_word {word : String} {k : Symbol} (h : keywords.lookup word = some k)
    (hw : wordValue? k = none) :
    ∃ fault position, parse word = .error (.malformed fault position) := by
  obtain ⟨position, stop, hlex⟩ := lex_of_spells (spells_of_lookup h)
  have hmem : k ∈ keywords.map Prod.snd := List.mem_map_of_mem (mem_keywords h)
  unfold parse
  rw [hlex]
  cases k with
  | andWord | orWord | notWord | ifWord | elseWord => exact ⟨_, _, rfl⟩
  | trueWord | falseWord | noneWord => cases hw
  | _ => exact absurd hmem (by decide)

/-- **A word with a fixed meaning keeps it**, whatever is bound to it. -/
theorem evaluate_word {word : String} {k : Symbol} (h : keywords.lookup word = some k) :
    (∀ w, wordValue? k = some w → evaluate word b = .ok w) ∧
      (wordValue? k = none →
        ∃ fault position, evaluate word b = .error (.malformed fault position)) := by
  unfold evaluate
  constructor
  · intro w hw
    rw [parse_of_wordValue? h hw]
    rfl
  · intro hw
    obtain ⟨fault, position, hparse⟩ := exists_fault_of_word h hw
    rw [hparse]
    exact ⟨fault, position, rfl⟩

end Fanout.Expr
