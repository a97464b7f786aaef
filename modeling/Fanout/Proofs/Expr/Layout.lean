/-
  Fanout.Proofs.Expr.Layout
  ─────────────────────────
  **Where tokens stand in a text, and where their reading stops.**

  The reading takes a text from one boundary between characters to the next:
  over separators, or over a token.  So the positions of the tokens are
  boundaries and increase up to the end of the text, nothing but separators
  is left between them, and a fault is reported at a boundary that the
  reading arrives at.  One fault says that an integer is too large: that is
  where a run of digits, with no fraction and no exponent behind it, stands
  for a number above 2⁶³ − 1.

    • `laidOut_of_lexFrom` — tokens, with separators alone between them,
    • `lex_eq_error_iff` — faults, at the places where the reading arrives,
    • `scan_eq_wideInteger_iff` — integers that are too large,
    • `exists_safeReading` — all of it for every text.
-/
import Fanout.Proofs.Expr.Cursor

namespace Fanout.Expr

open Fanout.Number Fanout.Text Fanout.Template

/-! ## §1. Places. -/

/-- A character begins at the byte, or the text ends there. -/
def IsBoundary (cs : List Char) (p : Nat) : Prop :=
  ∃ before after, cs = before ++ after ∧ p = byteLength before

/-- Between two bytes stand separators alone. -/
def BlankBetween (cs : List Char) (p q : Nat) : Prop :=
  ∃ before gap after, cs = before ++ (gap ++ after) ∧ p = byteLength before ∧
    q = byteLength (before ++ gap) ∧ ∀ c ∈ gap, isSeparator c = true

/-- A cursor at the byte `p` reads the token `t`, and is at the byte `q` then. -/
def TokenAt (cs : List Char) (p : Nat) (t : Token) (q : Nat) : Prop :=
  ∃ ch, (⟨cs, p⟩ : Cursor).peek 0 = some ch ∧ isSeparator ch = false ∧
    (⟨cs, p⟩ : Cursor).token ch = .ok (t, ⟨cs, q⟩)

/-- The tokens stand where they are located, from one byte to another, and between them stand
separators alone. -/
inductive LaidOut (cs : List Char) : Nat → List Located → Nat → Prop where
  /-- No token. -/
  | nil {p stop : Nat} (gap : BlankBetween cs p stop) : LaidOut cs p [] stop
  /-- One more token in front. -/
  | cons {p q stop : Nat} {t : Located} {items : List Located}
      (gap : BlankBetween cs p t.position) (token : TokenAt cs t.position t.token q)
      (longer : t.position < q) (others : LaidOut cs q items stop) :
      LaidOut cs p (t :: items) stop

/-- The reading arrives at a byte: behind separators and tokens. -/
inductive Arrives (cs : List Char) : Nat → Prop where
  /-- It begins at the first byte. -/
  | start : Arrives cs 0
  /-- It skips separators. -/
  | gap {p q : Nat} (here : Arrives cs p) (gap : BlankBetween cs p q) : Arrives cs q
  /-- It reads tokens. -/
  | token {p q : Nat} {t : Token} (here : Arrives cs p) (token : TokenAt cs p t q) : Arrives cs q

variable {cs before after : List Char} {c : Char} {p q stop : Nat}

theorem IsBoundary.le_byteLength (h : IsBoundary cs p) : p ≤ byteLength cs := by
  obtain ⟨before, after, rfl, rfl⟩ := h
  rw [byteLength_append]
  exact Nat.le_add_right _ _

theorem BlankBetween.isBoundary (h : BlankBetween cs p q) : IsBoundary cs q := by
  obtain ⟨before, gap, after, rfl, -, rfl, -⟩ := h
  exact ⟨before ++ gap, after, (List.append_assoc _ _ _).symm, rfl⟩

theorem BlankBetween.le (h : BlankBetween cs p q) : p ≤ q := by
  obtain ⟨before, gap, after, -, rfl, rfl, -⟩ := h
  rw [byteLength_append]
  exact Nat.le_add_right _ _

theorem blankBetween_self (before after : List Char) :
    BlankBetween (before ++ after) (byteLength before) (byteLength before) :=
  ⟨before, [], after, rfl, rfl, by rw [List.append_nil], by simp⟩

theorem blankBetween_separator (before : List Char) (h : isSeparator c = true) (rest : List Char) :
    BlankBetween (before ++ c :: rest) (byteLength before) (byteLength (before ++ [c])) :=
  ⟨before, [c], rest, rfl, rfl, rfl, by simpa using h⟩

theorem BlankBetween.trans {r : Nat} (h : BlankBetween cs p q) (h' : BlankBetween cs q r) :
    BlankBetween cs p r := by
  obtain ⟨before, gap, after, rfl, rfl, rfl, hgap⟩ := h
  obtain ⟨before', gap', after', htext, hplace, rfl, hgap'⟩ := h'
  rw [← List.append_assoc] at htext
  obtain ⟨rfl, rfl⟩ := append_inj_of_byteLength htext hplace
  refine ⟨before, gap ++ gap', after', by rw [List.append_assoc], rfl,
    by rw [List.append_assoc], fun c hc => ?_⟩
  rcases List.mem_append.mp hc with hc | hc
  · exact hgap c hc
  · exact hgap' c hc

/-- Separators in front of tokens belong to the gap before the first one. -/
theorem LaidOut.skip {items : List Located} (h : LaidOut cs q items stop)
    (hgap : BlankBetween cs p q) : LaidOut cs p items stop := by
  cases h with
  | nil gap => exact .nil (hgap.trans gap)
  | cons gap token longer others => exact .cons (hgap.trans gap) token longer others

/-! ## §2. Tokens. -/

/-- What `scan` reads a cursor reads, and it goes on behind the characters of the token. -/
theorem tokenAt_of_scan {s : Scan} {rest : List Char} (before : List Char)
    (hc : isSeparator c = false) (h : scan c rest = .ok s) :
    TokenAt (before ++ c :: rest) (byteLength before) s.token
      (byteLength (before ++ c :: rest.take s.extra)) := by
  obtain ⟨d, hpeek, hd⟩ := Cursor.exists_peek_zero before c rest
  have hread := Cursor.token_between hpeek
  have hbehind : Cursor.between (before ++ c :: rest.take s.extra) (rest.drop s.extra) =
      ⟨before ++ c :: rest, byteLength (before ++ c :: rest.take s.extra)⟩ := by
    rw [Cursor.between, List.append_assoc, List.cons_append, List.take_append_drop]
  rw [h, Cursor.moved, hbehind] at hread
  exact ⟨d, hpeek, hd.trans hc, hread⟩

/-- What a cursor between characters reads `scan` reads. -/
theorem TokenAt.exists_scan {t : Token} (h : TokenAt (before ++ after) (byteLength before) t q) :
    ∃ c rest s, after = c :: rest ∧ isSeparator c = false ∧ scan c rest = .ok s ∧
      q = byteLength (before ++ c :: rest.take s.extra) := by
  obtain ⟨d, hpeek, hd, hread⟩ := h
  cases after with
  | nil =>
      have hend : (Cursor.between before []).peek 0 = none := by
        rw [Cursor.peek, Cursor.ahead_between]
        rfl
      cases hend.symm.trans hpeek
  | cons c rest =>
      obtain ⟨d', hpeek', hd'⟩ := Cursor.exists_peek_zero before c rest
      obtain rfl : d' = d := Option.some.inj (hpeek'.symm.trans hpeek)
      have hscan := (Cursor.token_between hpeek').symm.trans hread
      cases hs : scan c rest with
      | error f =>
          rw [hs] at hscan
          cases hscan
      | ok s =>
          rw [hs] at hscan
          obtain ⟨-, hq⟩ := Prod.mk.inj (Except.ok.inj hscan)
          exact ⟨c, rest, s, rfl, hd'.symm.trans hd, hs, (congrArg Cursor.offset hq).symm⟩

/-- **Where tokens are read, they stand with separators alone between them.** -/
theorem laidOut_of_lexFrom :
    ∀ (after before : List Char) {items : List Located} {stop : Nat},
      lexFrom (byteLength before) after = .ok (items, stop) →
        LaidOut (before ++ after) (byteLength before) items stop
  | [], before, items, stop, h => by
      rw [lexFrom] at h
      obtain ⟨rfl, rfl⟩ := Prod.mk.inj (Except.ok.inj h)
      exact .nil (blankBetween_self before [])
  | c :: cs, before, items, stop, h => by
      by_cases hseparator : isSeparator c = true
      · have hnext : byteLength (before ++ [c]) = byteLength before + 1 := by
          rw [byteLength_append, byteLength, utf8Size_of_isSeparator hseparator]
          rfl
        rw [lexFrom, if_pos hseparator, ← hnext] at h
        have hothers := laidOut_of_lexFrom cs (before ++ [c]) h
        rw [List.append_assoc, List.singleton_append] at hothers
        exact hothers.skip (blankBetween_separator before hseparator cs)
      · rw [Bool.not_eq_true] at hseparator
        cases hscan : scan c cs with
        | error f =>
            rw [lexFrom, hseparator, hscan] at h
            cases h
        | ok s =>
            rw [lexFrom_of_scan hseparator hscan, ← byteLength_append] at h
            split at h
            · cases h
            · rename_i others rest hothers
              obtain ⟨rfl, rfl⟩ := Prod.mk.inj (Except.ok.inj h)
              have hothers := laidOut_of_lexFrom _ _ hothers
              rw [List.append_assoc, List.cons_append, List.take_append_drop] at hothers
              have hlonger : byteLength before <
                  byteLength (before ++ c :: cs.take s.extra) := by
                have hpositive := c.utf8Size_pos
                rw [byteLength_append, byteLength]
                omega
              exact .cons (blankBetween_self before _) (tokenAt_of_scan before hseparator hscan)
                hlonger hothers
termination_by after => after.length
decreasing_by
  · simp
  · simp only [List.length_drop, List.length_cons]; omega

/-- The positions of tokens, and the end of the text behind them. -/
def Tokens.positions (ts : Tokens) : List Nat := ts.items.map Located.position ++ [ts.stop]

/-- Tokens that are laid out begin at boundaries, each behind the one before. -/
theorem LaidOut.positions {items : List Located} (h : LaidOut cs p items stop) :
    (Tokens.positions ⟨items, stop⟩).Pairwise (· < ·) ∧
      ∀ q ∈ Tokens.positions ⟨items, stop⟩, p ≤ q ∧ IsBoundary cs q := by
  induction h with
  | nil gap =>
      exact ⟨List.pairwise_singleton _ _,
        List.forall_mem_singleton.mpr ⟨gap.le, gap.isBoundary⟩⟩
  | cons gap token longer others ih =>
      obtain ⟨hincreasing, hplaces⟩ := ih
      refine ⟨List.pairwise_cons.mpr ⟨fun q hq => ?_, hincreasing⟩,
        List.forall_mem_cons.mpr ⟨⟨gap.le, gap.isBoundary⟩, fun q hq => ⟨?_, (hplaces q hq).2⟩⟩⟩
      · exact Nat.lt_of_lt_of_le longer (hplaces q hq).1
      · have hle := gap.le
        have hq := (hplaces q hq).1
        omega

/-! ## §3. Faults. -/

/-- **The reading goes on wherever it arrives**: at a boundary, and a fault behind it is the fault
of the text. -/
theorem Arrives.exists_parts (h : Arrives cs p) :
    ∃ before after, cs = before ++ after ∧ p = byteLength before ∧
      ∀ e, lexFrom p after = .error e → lexFrom 0 cs = .error e := by
  induction h with
  | start => exact ⟨[], cs, rfl, rfl, fun e he => he⟩
  | gap here gap ih =>
      obtain ⟨before, after, rfl, rfl, hfault⟩ := ih
      obtain ⟨before', gap, after', htext, hplace, rfl, hgap⟩ := gap
      obtain ⟨rfl, rfl⟩ := append_inj_of_byteLength htext hplace
      have hbytes := byteLength_of_isAscii fun c hc => isAscii_isSeparator c (hgap c hc)
      refine ⟨before ++ gap, after', (List.append_assoc _ _ _).symm, rfl, fun e he => ?_⟩
      rw [byteLength_append, hbytes] at he
      exact hfault e (by rw [lexFrom_of_blank hgap]; exact he)
  | token here token ih =>
      obtain ⟨before, after, rfl, rfl, hfault⟩ := ih
      obtain ⟨c, rest, s, rfl, hc, hscan, rfl⟩ := token.exists_scan
      refine ⟨before ++ c :: rest.take s.extra, rest.drop s.extra, ?_, rfl, fun e he => ?_⟩
      · rw [List.append_assoc, List.cons_append, List.take_append_drop]
      · refine hfault e ?_
        rw [lexFrom_of_scan hc hscan, ← byteLength_append, he]

/-- A fault of a text is one of the token at a place where the reading arrives. -/
theorem exists_fault_of_lexFrom {e : EvalError} :
    ∀ (after before : List Char), lexFrom (byteLength before) after = .error e →
      Arrives (before ++ after) (byteLength before) →
        ∃ first c rest f, before ++ after = first ++ c :: rest ∧
          Arrives (before ++ after) (byteLength first) ∧ isSeparator c = false ∧
            scan c rest = .error f ∧ e = .malformed f (byteLength first)
  | [], before, h, _ => by
      rw [lexFrom] at h
      cases h
  | c :: cs, before, h, harrives => by
      by_cases hseparator : isSeparator c = true
      · have hnext : byteLength (before ++ [c]) = byteLength before + 1 := by
          rw [byteLength_append, byteLength, utf8Size_of_isSeparator hseparator]
          rfl
        have hbehind := harrives.gap (blankBetween_separator before hseparator cs)
        rw [lexFrom, if_pos hseparator, ← hnext] at h
        rw [← List.singleton_append, ← List.append_assoc] at hbehind ⊢
        exact exists_fault_of_lexFrom cs (before ++ [c]) h hbehind
      · rw [Bool.not_eq_true] at hseparator
        cases hscan : scan c cs with
        | error f =>
            rw [lexFrom, hseparator, hscan] at h
            exact ⟨before, c, cs, f, rfl, harrives, hseparator, hscan, (Except.error.inj h).symm⟩
        | ok s =>
            have htext : before ++ c :: cs =
                (before ++ c :: cs.take s.extra) ++ cs.drop s.extra := by
              rw [List.append_assoc, List.cons_append, List.take_append_drop]
            have hbehind := harrives.token (tokenAt_of_scan before hseparator hscan)
            rw [lexFrom_of_scan hseparator hscan, ← byteLength_append] at h
            rw [htext] at hbehind ⊢
            split at h
            · rename_i e' he'
              obtain rfl := Except.error.inj h
              exact exists_fault_of_lexFrom _ _ he' hbehind
            · cases h
termination_by after => after.length
decreasing_by
  · simp
  · simp only [List.length_drop, List.length_cons]; omega

/-- **The faults of a text**: it has no token, or a token cannot be read where the reading
arrives. -/
theorem lex_eq_error_iff {f : SyntaxFault} :
    lex cs = .error (.malformed f p) ↔
      (f = .empty ∧ p = 0 ∧ ∀ c ∈ cs, isSeparator c = true) ∨
        ∃ before c rest, cs = before ++ c :: rest ∧ p = byteLength before ∧ Arrives cs p ∧
          isSeparator c = false ∧ scan c rest = .error f := by
  constructor
  · intro h
    unfold lex at h
    split at h
    · rename_i e he
      obtain rfl := Except.error.inj h
      obtain ⟨before, c, rest, f', hcs, harrives, hc, hscan, hfault⟩ :=
        exists_fault_of_lexFrom cs [] he .start
      obtain ⟨rfl, rfl⟩ := EvalError.malformed.inj hfault
      exact .inr ⟨before, c, rest, hcs, rfl, harrives, hc, hscan⟩
    · rename_i stop hnone
      obtain ⟨rfl, rfl⟩ := EvalError.malformed.inj (Except.error.inj h)
      -- Without tokens the text is one gap.
      have hstop : stop = byteLength cs := by rw [stop_of_lexFrom hnone, Nat.zero_add]
      cases laidOut_of_lexFrom cs [] hnone with
      | nil gap =>
          obtain ⟨before, gap, after, htext, hplace, hend, hgap⟩ := gap
          obtain ⟨rfl, rfl⟩ := append_inj_of_byteLength htext hplace
          have htail : (gap ++ after) ++ [] = gap ++ after := List.append_nil _
          obtain ⟨hall, -⟩ := append_inj_of_byteLength htail (hstop.symm.trans hend)
          exact .inl ⟨rfl, rfl, by rw [hall]; exact hgap⟩
    · cases h
  · rintro (⟨rfl, rfl, hblank⟩ | ⟨before, c, rest, rfl, rfl, harrives, hc, hscan⟩)
    · exact lex_of_blank hblank
    · obtain ⟨before', after, htext, hplace, hfault⟩ := harrives.exists_parts
      obtain ⟨rfl, rfl⟩ := append_inj_of_byteLength htext hplace
      have hread : lexFrom (byteLength before) (c :: rest) =
          .error (.malformed f (byteLength before)) := by
        rw [lexFrom, hc, hscan]
        rfl
      rw [lex, hfault _ hread]

/-! ## §4. Integers that are too large. -/

/-- A run of digits, with underscores behind the first one, that is not a part of a longer number. -/
structure IntegerRun (run behind : List Char) : Prop where
  /-- It begins with a digit. -/
  first : run.head?.any Char.isDigit = true
  /-- It has digits and underscores alone. -/
  digits : ∀ c ∈ run, isNumberChar c = true
  /-- No more of them follow. -/
  longest : behind.head?.any isNumberChar = false
  /-- No fraction follows. -/
  noFraction : ¬ FractionNext behind
  /-- No exponent follows. -/
  noPower : ¬ PowerNext behind

/-- `scanNumber` refuses integers that are too large. -/
theorem scanNumber_eq_error_iff {f : SyntaxFault} :
    scanNumber c cs = .error f ↔
      readFraction ((c :: cs).dropWhile isNumberChar) = none ∧
        readPower ((c :: cs).dropWhile isNumberChar) = none ∧
        2 ^ 63 - 1 < digitsValue (dropUnderscores ((c :: cs).takeWhile isNumberChar)) ∧
        f = .wideInteger (String.ofList (dropUnderscores ((c :: cs).takeWhile isNumberChar))) := by
  obtain ⟨after, hleft, -⟩ :=
    Cursor.skipFraction?_between [] ((c :: cs).dropWhile isNumberChar)
  obtain ⟨tail, -, -, hpower, -⟩ := Cursor.skipPower?_between [] after
  have hrefused : ∀ {r : Except SyntaxFault Token} {g : Token → Scan},
      r.map g = .error f ↔ r = .error f := by
    intro r g
    cases r with
    | error e => simp [Except.map]
    | ok t => simp [Except.map]
  rw [scanNumber_eq rfl hleft hpower, hrefused, numberValue_eq_error_iff]
  refine and_congr_right fun hnone => ?_
  rw [hnone, fractionText, List.nil_append] at hleft
  rw [hleft]

/-- An integer begins with a digit. -/
theorem isDigit_of_scan {digits : String} (h : scan c cs = .error (.wideInteger digits)) :
    c.isDigit = true := by
  by_contra hdigit
  unfold scan at h
  simp only [if_neg hdigit] at h
  split at h
  · cases h
  · split at h
    · cases h
    · split at h
      · split at h <;> cases h
      · split at h
        · split at h <;> cases h
        · split at h
          · rename_i hpoint
            split at h
            · -- A point before a digit is a fraction, and a float.
              rename_i hnext
              subst hpoint
              obtain ⟨hnone, -⟩ := scanNumber_eq_error_iff.mp h
              obtain ⟨d, hd, hdigit⟩ := (Option.any_eq_true _ _).mp hnext
              refine readFraction_eq_none_iff.mp hnone ⟨cs, rfl, ?_⟩
              rw [hd]
              exact isNameStart_of_isDigit hdigit
            · cases h
          · split at h <;> cases h

/-- **An integer is too large** where a run of digits says a number above 2⁶³ − 1. -/
theorem scan_eq_wideInteger_iff {digits : String} :
    scan c cs = .error (.wideInteger digits) ↔
      ∃ run behind, c :: cs = run ++ behind ∧ IntegerRun run behind ∧
        digits = String.ofList (dropUnderscores run) ∧
          2 ^ 63 - 1 < digitsValue (dropUnderscores run) := by
  have hscan : c.isDigit = true → scan c cs = scanNumber c cs := by
    intro hdigit
    rw [scan_of_isNameChar (isNameChar_of_isNumberChar (isNumberChar_of_isDigit hdigit)),
      if_pos hdigit]
  constructor
  · intro h
    have hdigit := isDigit_of_scan h
    rw [hscan hdigit] at h
    obtain ⟨hfraction, hpower, hwide, hfault⟩ := scanNumber_eq_error_iff.mp h
    refine ⟨(c :: cs).takeWhile isNumberChar, (c :: cs).dropWhile isNumberChar,
      List.takeWhile_append_dropWhile.symm, ?_, SyntaxFault.wideInteger.inj hfault, hwide⟩
    refine ⟨?_, fun d => List.mem_takeWhile_imp, ?_, readFraction_eq_none_iff.mp hfraction,
      readPower_eq_none_iff.mp hpower⟩
    · rw [List.takeWhile_cons_of_pos (isNumberChar_of_isDigit hdigit)]
      exact hdigit
    · have hstop := List.head?_dropWhile_not isNumberChar (c :: cs)
      cases hhead : ((c :: cs).dropWhile isNumberChar).head? with
      | none => rfl
      | some d =>
          rw [hhead] at hstop
          exact hstop
  · rintro ⟨run, behind, htext, hrun, rfl, hwide⟩
    obtain ⟨d, hd, hdigit⟩ := (Option.any_eq_true _ _).mp hrun.first
    have hc : c.isDigit = true := by
      obtain ⟨ds, rfl⟩ := List.head?_eq_some_iff.mp hd
      rw [(List.cons.inj htext).1]
      exact hdigit
    have hstop : ∀ d, behind.head? = some d → isNumberChar d = false := by
      intro d hd
      have hlongest := hrun.longest
      rw [hd] at hlongest
      exact hlongest
    obtain ⟨htake, hdrop⟩ := takeWhile_append_of_stop hrun.digits hstop
    rw [← htext] at htake hdrop
    rw [hscan hc, scanNumber_eq_error_iff, htake, hdrop]
    exact ⟨readFraction_eq_none_iff.mpr hrun.noFraction, readPower_eq_none_iff.mpr hrun.noPower,
      hwide, rfl⟩

/-! ## §5. Whole texts. -/

/-- The reading arrives at a run of digits that says a number above 2⁶³ − 1. -/
def WideAt (cs : List Char) (p : Nat) (digits : String) : Prop :=
  Arrives cs p ∧ ∃ before run behind, cs = before ++ (run ++ behind) ∧ p = byteLength before ∧
    IntegerRun run behind ∧ digits = String.ofList (dropUnderscores run) ∧
      2 ^ 63 - 1 < digitsValue (dropUnderscores run)

/-- Where the tokens of a text stand. -/
structure WellPlaced (cs : List Char) (ts : Tokens) : Prop where
  /-- There is one at least. -/
  some_token : ts.items ≠ []
  /-- The text ends behind its last byte. -/
  stop_eq : ts.stop = byteLength cs
  /-- Every token begins behind the one before, and the end of the text is behind all of them. -/
  increasing : ts.positions.Pairwise (· < ·)
  /-- All of them begin where a character does. -/
  boundary : ∀ p ∈ ts.positions, IsBoundary cs p
  /-- Separators alone stand before them, between the end of one and the next, and behind them. -/
  laidOut : LaidOut cs 0 ts.items ts.stop

/-- What the reading of a text gives, with a fault at a byte or with tokens. -/
structure SafeReading (cs : List Char) (r : Except (SyntaxFault × Nat) Tokens) : Prop where
  /-- The reading by bytes gives it within one turn for each byte: it never takes a text between
  bytes inside a character, and never refuses a number with a point or an exponent. -/
  within : lexWithin (byteLength cs) cs = some (r.mapError fun e => .fault e.1 e.2)
  /-- It is what `lex` gives. -/
  lex_eq : lex cs = r.mapError fun e => .malformed e.1 e.2
  /-- Tokens are well placed. -/
  placed : ∀ ts, r = .ok ts → WellPlaced cs ts
  /-- A fault is reported where a character begins, or at the end of the text. -/
  fault : ∀ f p, r = .error (f, p) → IsBoundary cs p ∧ p ≤ byteLength cs
  /-- An integer is refused exactly where it is too large. -/
  wide : ∀ digits p, r = .error (.wideInteger digits, p) ↔ WideAt cs p digits

theorem wellPlaced_of_lex {ts : Tokens} (h : lex cs = .ok ts) : WellPlaced cs ts := by
  have hread := lexFrom_of_lex h
  have hlaid := laidOut_of_lexFrom cs [] hread
  refine ⟨?_, stop_of_lex h, hlaid.positions.1, fun p hp => (hlaid.positions.2 p hp).2, hlaid⟩
  intro hnone
  rw [hnone] at hread
  rw [lex, hread] at h
  cases h

/-- A fault of a text is reported at a boundary. -/
theorem isBoundary_of_lex {f : SyntaxFault} (h : lex cs = .error (.malformed f p)) :
    IsBoundary cs p := by
  rcases lex_eq_error_iff.mp h with ⟨-, rfl, -⟩ | ⟨before, c, rest, rfl, rfl, -⟩
  · exact ⟨[], cs, rfl, rfl⟩
  · exact ⟨before, c :: rest, rfl, rfl⟩

theorem lex_eq_wideInteger_iff {digits : String} :
    lex cs = .error (.malformed (.wideInteger digits) p) ↔ WideAt cs p digits := by
  rw [lex_eq_error_iff]
  constructor
  · rintro (⟨h, -⟩ | ⟨before, c, rest, rfl, rfl, harrives, -, hscan⟩)
    · cases h
    · obtain ⟨run, behind, htext, hrun⟩ := scan_eq_wideInteger_iff.mp hscan
      exact ⟨harrives, before, run, behind, by rw [htext], rfl, hrun⟩
  · rintro ⟨harrives, before, run, behind, rfl, rfl, hrun, hwide⟩
    obtain ⟨c, hc, hdigit⟩ := (Option.any_eq_true _ _).mp hrun.first
    obtain ⟨rest, rfl⟩ := List.head?_eq_some_iff.mp hc
    refine .inr ⟨before, c, rest ++ behind, rfl, rfl, harrives, ?_,
      scan_eq_wideInteger_iff.mpr ⟨c :: rest, behind, rfl, hrun, hwide⟩⟩
    exact isSeparator_of_isNameChar (isNameChar_of_isNumberChar (isNumberChar_of_isDigit hdigit))

/-- **The reading of tokens is safe.**  Every text is read to its end or to a fault within one turn
for each byte, and nothing is cut inside a character; tokens stand one behind the other with
separators alone between them, a fault is reported at a boundary, and of numbers only integers above
2⁶³ − 1 are refused. -/
theorem exists_safeReading (cs : List Char) : ∃ r, SafeReading cs r := by
  obtain ⟨r, hwithin, hlex⟩ := exists_lexWithin cs
  have herror : ∀ {f : SyntaxFault} {p : Nat}, r = .error (f, p) ↔
      lex cs = .error (.malformed f p) := by
    intro f p
    rw [hlex]
    cases r with
    | error e => simp [Except.mapError, Prod.ext_iff]
    | ok ts => simp [Except.mapError]
  refine ⟨r, hwithin, hlex, ?_, ?_, ?_⟩
  · rintro ts rfl
    exact wellPlaced_of_lex hlex
  · intro f p h
    have hboundary := isBoundary_of_lex (herror.mp h)
    exact ⟨hboundary, hboundary.le_byteLength⟩
  · intro digits p
    rw [herror, lex_eq_wideInteger_iff]

end Fanout.Expr
