/-
  Fanout.Proofs.Expr.Separated
  ────────────────────────────
  **Tokens written with separators between them are read back, whatever the
  tokens are and however they are spelled.**

  A float has many texts and a negative integer none.  Every other token has
  a spelling of its own, so that any list of them can be written; and reading
  takes the text to its last byte.

    • `stop_of_lexFrom` — where tokens are read, the text is read to its end,
    • `exists_spaced_iff` — the tokens that can be written with separators
      between them,
    • `lex_of_blank` — a text of separators alone is refused,
    • `lex_separated` — the three together.
-/
import Fanout.Proofs.Expr.Print

namespace Fanout.Expr

open Fanout.Text

/-! ## §1. The end of a text. -/

/-- A separator is one byte. -/
theorem utf8Size_of_isSeparator {c : Char} (h : isSeparator c = true) : c.utf8Size = 1 := by
  unfold isSeparator at h
  simp only [Bool.or_eq_true, beq_iff_eq] at h
  rcases h with ((rfl | rfl) | rfl) | rfl <;> rfl

/-- **Where tokens are read, the text is read to its end.** -/
theorem stop_of_lexFrom :
    ∀ {cs : List Char} {position stop : Nat} {items : List Located},
      lexFrom position cs = .ok (items, stop) → stop = position + byteLength cs
  | [], position, stop, items, h => by
      rw [lexFrom] at h
      obtain ⟨-, rfl⟩ := Prod.mk.inj (Except.ok.inj h)
      rfl
  | c :: cs, position, stop, items, h => by
      rw [lexFrom] at h
      by_cases hseparator : isSeparator c = true
      · rw [if_pos hseparator] at h
        rw [stop_of_lexFrom h, byteLength, utf8Size_of_isSeparator hseparator, Nat.add_assoc]
      · rw [if_neg hseparator] at h
        split at h
        · cases h
        · rename_i s hscan
          split at h
          · cases h
          · rename_i others rest hothers
            obtain ⟨-, rfl⟩ := Prod.mk.inj (Except.ok.inj h)
            -- the token's characters and what is behind them are the text
            have hsplit : c :: cs = (c :: cs.take s.extra) ++ cs.drop s.extra := by
              rw [List.cons_append, List.take_append_drop]
            rw [stop_of_lexFrom hothers, Nat.add_assoc, ← byteLength_append, ← hsplit]
termination_by cs => cs.length
decreasing_by
  · simp
  · simp only [List.length_drop, List.length_cons]; omega

/-! ## §2. What can be written. -/

/-- No text spells a float or a negative integer. -/
theorem Spells.plain {w : List Char} {t : Token} (h : Spells w t) : t.Plain := by
  cases h with
  | int digit others value => exact .int (value ▸ Int.natCast_nonneg _)
  | str isQuote text => exact .str text
  | ident free => exact .ident free
  | symbol spelling => exact .symbol _

/-- **The tokens that can be written with separators between them** are the plain ones. -/
theorem exists_spaced_iff (ts : List Token) : (∃ cs, Spaced cs ts) ↔ ∀ t ∈ ts, t.Plain := by
  constructor
  · rintro ⟨cs, hcs⟩
    induction hcs with
    | blank => simp
    | token _ spelled _ _ ih => exact List.forall_mem_cons.mpr ⟨spelled.plain, ih⟩
  · intro hplain
    have hgap : ∀ c ∈ ([] : List Char), isSeparator c = true := by simp
    exact ⟨_, spaced_intercalate .double hgap hplain⟩

/-! ## §3. Whole texts. -/

/-- A text of separators alone is refused. -/
theorem lex_of_blank {cs : List Char} (h : ∀ c ∈ cs, isSeparator c = true) :
    lex cs = .error (.malformed .empty 0) := by
  have hskip := lexFrom_of_blank h 0 []
  rw [List.append_nil] at hskip
  unfold lex
  rw [hskip, lexFrom]

/-- The end of the tokens is the end of the text. -/
theorem stop_of_lex {cs : List Char} {items : List Located} {stop : Nat}
    (h : lex cs = .ok ⟨items, stop⟩) : stop = byteLength cs := by
  have hstop := stop_of_lexFrom (lexFrom_of_lex h)
  rwa [Nat.zero_add] at hstop

/-- **Reading undoes writing.**  Tokens that are spelled in any of their ways and have separators
between them are read in order and to the end of the text, and nothing else is read; every list
of plain tokens is written so; and separators alone are no expression. -/
theorem lex_separated :
    (∀ cs ts, Spaced cs ts → ts ≠ [] →
      ∃ items, lex cs = .ok ⟨items, byteLength cs⟩ ∧ tokensOf items = ts) ∧
    (∀ ts, (∃ cs, Spaced cs ts) ↔ ∀ t ∈ ts, t.Plain) ∧
    ∀ cs, (∀ c ∈ cs, isSeparator c = true) → lex cs = .error (.malformed .empty 0) := by
  refine ⟨fun cs ts hspaced hts => ?_, exists_spaced_iff, fun cs => lex_of_blank⟩
  obtain ⟨items, stop, hlex, hitems⟩ := lex_of_spaced hspaced hts
  have hstop := stop_of_lex hlex
  subst hstop
  exact ⟨items, hlex, hitems⟩

/-- An integer with an underscore, a sign for a word, a text with a quote of its own kind and one
of the other and a backslash at its end, and a name that only begins like a keyword; and a line
that is blank. -/
theorem lex_separated_lines :
    (∃ items,
      lex "\t1_0 &&\n'it\\'s \"é\" \\\\'\r\nNone_ ".toList = .ok ⟨items, 31⟩ ∧
        tokensOf items = [.int 10, .symbol .andWord, .str "it's \"é\" \\", .ident "None_"]) ∧
      lex ['\r', '\n'] = .error (.malformed .empty 0) := by
  have hparts : "\t1_0 &&\n'it\\'s \"é\" \\\\'\r\nNone_ ".toList =
      ['\t'] ++ (['1', '_', '0'] ++ ([' '] ++ ("&&".toList ++
        (['\n'] ++ (quotedBy '\'' "it's \"é\" \\".toList ++
          (['\r', '\n'] ++ ("None_".toList ++ [' ']))))))) := by decide
  have hlength : byteLength "\t1_0 &&\n'it\\'s \"é\" \\\\'\r\nNone_ ".toList = 31 := by decide
  have hspace : ∀ c ∈ [' '], isSeparator c = true := by simp [isSeparator]
  have hlines : ∀ c ∈ ['\r', '\n'], isSeparator c = true := by simp [isSeparator]
  have hfree : IsFreeName "None_" := ⟨by decide, by decide⟩
  have hname := Spaced.token hlines (.ident hfree) (apart_cons rfl _) (.blank hspace)
  have hbreak : ∀ c ∈ ['\n'], isSeparator c = true := by simp [isSeparator]
  have htext := Spaced.token hbreak (.str (.inr rfl) "it's \"é\" \\") (apart_cons rfl _) hname
  have hsign : Spells "&&".toList (.symbol .andWord) := .symbol (by decide)
  have hand := Spaced.token hspace hsign (apart_cons rfl _) htext
  have htab : ∀ c ∈ ['\t'], isSeparator c = true := by simp [isSeparator]
  have hten : Spells ['1', '_', '0'] (.int 10) :=
    .int (by decide) (by simp [isNumberChar]) (by decide)
  have hspaced := Spaced.token htab hten (apart_cons rfl _) hand
  rw [← hlength]
  exact ⟨lex_separated.1 _ _ (hparts ▸ hspaced) (List.cons_ne_nil _ _),
    lex_separated.2.2 _ hlines⟩

end Fanout.Expr
