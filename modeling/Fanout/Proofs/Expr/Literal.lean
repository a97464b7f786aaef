/-
  Fanout.Proofs.Expr.Literal
  ──────────────────────────
  **Texts between double quotes as literals of expressions.**

  Quoting looks at the first and the last character of a text only, reading
  a literal at all of them.  The two agree on the texts whose inner quotes
  are behind backslashes, and on no others (`Enclosable`).

    • `exists_of_readText` — what is read up to the closing quote,
    • `lexFrom_of_enclosable` — such a text is one token wherever it stands,
    • `isLiteral_iff_of_isQuoted` — no other quoted text is one token,
    • `isLiteral_iff_of_bound` — the same for what declarations bind.
-/
import Fanout.Proofs.Derived
import Fanout.Proofs.Expr.Spelling
import Fanout.Proofs.Value
import Fanout.Source.Declaration

namespace Fanout.Expr

open Fanout.Text

/-! ## §1. Between quotes. -/

/-- A text that the double quotes around it enclose: it has no quote without a backslash before it,
and every backslash has a character behind it. -/
inductive Enclosable : List Char → Prop where
  /-- Nothing. -/
  | nil : Enclosable []
  /-- A character that stands for itself. -/
  | plain {c : Char} {cs : List Char} (plain : ¬ (c = '\\' ∨ c = '"')) (behind : Enclosable cs) :
      Enclosable (c :: cs)
  /-- A backslash and the character behind it. -/
  | escape {c : Char} {cs : List Char} (behind : Enclosable cs) : Enclosable ('\\' :: c :: cs)

/-- A backslash takes the character behind it. -/
theorem readText_escape (c : Char) (cs : List Char) :
    readText '"' ('\\' :: c :: cs) =
      (readText '"' cs).map fun (text, n) => (unescape c ++ text, n + 2) := by
  rw [readText.eq_def]
  rfl

/-- **An enclosable text is read up to the quote behind it.** -/
theorem exists_readText {body : List Char} (h : Enclosable body) :
    ∃ text, ∀ rest, readText '"' (body ++ '"' :: rest) = some (text, body.length + 1) := by
  induction h with
  | nil => exact ⟨[], readText_quote '"'⟩
  | @plain c cs plain _ ih =>
      obtain ⟨text, ih⟩ := ih
      refine ⟨c :: text, fun rest => ?_⟩
      rw [List.cons_append, readText_plain plain, ih]
      rfl
  | @escape c cs _ ih =>
      obtain ⟨text, ih⟩ := ih
      refine ⟨unescape c ++ text, fun rest => ?_⟩
      rw [List.cons_append, List.cons_append, readText_escape, ih]
      rfl

/-- **What is read up to a closing quote is enclosable.** -/
theorem exists_of_readText :
    ∀ {cs text : List Char} {n : Nat}, readText '"' cs = some (text, n) →
      ∃ body rest, cs = body ++ '"' :: rest ∧ Enclosable body ∧ n = body.length + 1
  | [], text, n, h => by
      rw [readText] at h
      cases h
  | c :: cs, text, n, h => by
      by_cases hquote : c = '"'
      · subst hquote
        rw [readText_quote] at h
        obtain ⟨-, rfl⟩ := Prod.mk.inj (Option.some.inj h)
        exact ⟨[], cs, rfl, .nil, rfl⟩
      · by_cases hback : c = '\\'
        · subst hback
          cases cs with
          | nil =>
              rw [readText.eq_def] at h
              cases h
          | cons d cs =>
              rw [readText_escape] at h
              obtain ⟨⟨text, n⟩, hread, he⟩ := Option.map_eq_some_iff.mp h
              obtain ⟨-, rfl⟩ := Prod.mk.inj he
              obtain ⟨body, rest, rfl, hbody, rfl⟩ := exists_of_readText hread
              exact ⟨'\\' :: d :: body, rest, rfl, .escape hbody, rfl⟩
        · have hplain : ¬ (c = '\\' ∨ c = '"') := not_or.mpr ⟨hback, hquote⟩
          rw [readText_plain hplain] at h
          obtain ⟨⟨text, n⟩, hread, he⟩ := Option.map_eq_some_iff.mp h
          obtain ⟨-, rfl⟩ := Prod.mk.inj he
          obtain ⟨body, rest, rfl, hbody, rfl⟩ := exists_of_readText hread
          exact ⟨c :: body, rest, rfl, .plain hplain hbody, rfl⟩

/-! ## §2. Tokens. -/

/-- What is read at a double quote. -/
theorem lexFrom_quote {cs text : List Char} {n : Nat} (h : readText '"' cs = some (text, n))
    (position : Nat) :
    lexFrom position ('"' :: cs) =
      match lexFrom (position + byteLength ('"' :: cs.take n)) (cs.drop n) with
      | .error e => .error e
      | .ok (items, stop) => .ok (⟨.str (String.ofList text), position⟩ :: items, stop) :=
  lexFrom_of_scan (by decide) (scan_of_readText (.inl rfl) h) position

/-- Where there are tokens behind a double quote, the text that it begins ends. -/
theorem exists_readText_of_lexFrom {cs : List Char} {position stop : Nat} {items : List Located}
    (h : lexFrom position ('"' :: cs) = .ok (items, stop)) :
    ∃ text n, readText '"' cs = some (text, n) := by
  cases hread : readText '"' cs with
  | some read => exact ⟨read.1, read.2, rfl⟩
  | none =>
      have hscan := scan_of_readText_none (.inl rfl) hread
      have hseparator : ¬ isSeparator '"' = true := by decide
      rw [lexFrom, if_neg hseparator, hscan] at h
      cases h

/-- **An enclosable text between double quotes is one token**, whatever stands behind it. -/
theorem lexFrom_of_enclosable {body : List Char} (h : Enclosable body) :
    ∃ text, ∀ position rest, lexFrom position ('"' :: (body ++ '"' :: rest)) =
      match lexFrom (position + byteLength ('"' :: (body ++ ['"']))) rest with
      | .error e => .error e
      | .ok (items, stop) => .ok (⟨.str text, position⟩ :: items, stop) := by
  obtain ⟨text, hread⟩ := exists_readText h
  refine ⟨String.ofList text, fun position rest => ?_⟩
  have hsplit : body ++ '"' :: rest = (body ++ ['"']) ++ rest := by
    rw [List.append_assoc]
    rfl
  have hlength : body.length + 1 = (body ++ ['"']).length := by rw [List.length_append]; rfl
  rw [lexFrom_quote (hread rest), hlength, hsplit, List.take_left, List.drop_left]

/-- Only separators have no token. -/
theorem isSeparator_of_lexFrom :
    ∀ {cs : List Char} {position stop : Nat}, lexFrom position cs = .ok ([], stop) →
      ∀ c ∈ cs, isSeparator c = true
  | [], _, _, _ => by
      intro c hc
      cases hc
  | c :: cs, position, stop, h => by
      rw [lexFrom] at h
      by_cases hseparator : isSeparator c = true
      · rw [if_pos hseparator] at h
        intro d hd
        rcases List.mem_cons.mp hd with rfl | hd
        · exact hseparator
        · exact isSeparator_of_lexFrom h d hd
      · rw [if_neg hseparator] at h
        -- the first character begins a token
        split at h
        · cases h
        · split at h
          · cases h
          · obtain ⟨hitems, -⟩ := Prod.mk.inj (Except.ok.inj h)
            cases hitems

/-! ## §3. Quoted texts. -/

/-- The text is one literal of expressions: a token that is a text, and nothing else. -/
def IsLiteral (s : String) : Prop :=
  ∃ text position stop, lex s.toList = .ok ⟨[⟨.str text, position⟩], stop⟩

/-- A text with quotes around it. -/
theorem toList_of_isQuoted {s : String} (h : isQuoted s = true) :
    s.toList = '"' :: ((unquoted s).toList ++ ['"']) := by
  have hinside : (unquoted s).toList = (s.toList.drop 1).dropLast := by
    rw [unquoted, if_pos h, String.toList_ofList]
  rw [hinside]
  unfold isQuoted at h
  split at h
  · rename_i c rest hs
    rw [hs]
    obtain ⟨inside, hinside⟩ := List.getLast?_eq_some_iff.mp (beq_iff_eq.mp h)
    rw [List.drop_succ_cons, List.drop_zero, hinside, List.dropLast_concat]
  · cases h

/-- Quoting puts quotes around a text, or leaves those that are there. -/
theorem isQuoted_quoted (t : String) : isQuoted (quoted t) = true := by
  unfold quoted
  by_cases h : isQuoted t = true
  · rw [if_pos h]
    exact h
  · rw [if_neg h]
    exact isQuoted_inQuotes t

/-- **A quoted text is one literal exactly if the quotes enclose what is between them.** -/
theorem isLiteral_iff_of_isQuoted {s : String} (h : isQuoted s = true) :
    IsLiteral s ↔ Enclosable (unquoted s).toList := by
  have hchars := toList_of_isQuoted h
  constructor
  · rintro ⟨text, position, stop, hlex⟩
    have hone := lexFrom_of_lex hlex
    rw [hchars] at hone
    obtain ⟨inside, n, hread⟩ := exists_readText_of_lexFrom hone
    obtain ⟨body, rest, hsplit, hbody, rfl⟩ := exists_of_readText hread
    rw [lexFrom_quote hread] at hone
    have hrest : ((unquoted s).toList ++ ['"']).drop (body.length + 1) = rest := by
      rw [hsplit]
      simp
    split at hone
    · cases hone
    · rename_i items stop' hbehind
      obtain ⟨hitems, -⟩ := Prod.mk.inj (Except.ok.inj hone)
      obtain rfl : items = [] := (List.cons.inj hitems).2
      rw [hrest] at hbehind
      -- The last character is a quote, and a quote is no separator.
      rcases List.eq_nil_or_concat rest with rfl | ⟨front, c, rfl⟩
      · obtain ⟨hbodies, -⟩ := List.append_inj' hsplit rfl
        rw [hbodies]
        exact hbody
      · have hseparator := isSeparator_of_lexFrom hbehind c (by simp)
        have hlast : (unquoted s).toList ++ ['"'] = (body ++ '"' :: front) ++ [c] := by
          rw [hsplit]
          simp
        obtain ⟨-, hc⟩ := List.append_inj' hlast rfl
        obtain rfl : '"' = c := (List.cons.inj hc).1
        exact absurd hseparator (by decide)
  · intro hbody
    obtain ⟨text, htoken⟩ := lexFrom_of_enclosable hbody
    have hone := htoken 0 []
    rw [← hchars, lexFrom] at hone
    unfold IsLiteral lex
    rw [hone]
    exact ⟨text, 0, _, rfl⟩

/-- A bound text has quotes. -/
theorem exists_quoted_of_bound {v : Value} {s : String} (h : bound v = .str s) :
    ∃ t, s = quoted t := by
  unfold bound at h
  split at h
  · rename_i t
    exact ⟨t, (Value.str.inj h).symm⟩
  · rename_i hother
    exact absurd h (hother s)

/-- **Whether a bound text is one literal.**  A declaration binds a computed text with quotes, and a
variable that takes texts has its values with quotes.  Such a value is one literal exactly if
the quotes enclose what is between them, and then it is one token in front of every other text. -/
theorem isLiteral_iff_of_bound (b : Bindings) (ds : List Derived) (t : String) :
    (∀ after, resolveDerived b ds = (after, none) →
      ∀ d ∈ ds, ∀ s, after.get? d.name = some (.str s) →
        (∃ computed, s = quoted computed) ∧ (IsLiteral s ↔ Enclosable (unquoted s).toList))
    ∧ (∀ s, readValue .quoted t = .str s →
        s = quoted t ∧ (IsLiteral s ↔ Enclosable (unquoted s).toList))
    ∧ (Enclosable (unquoted (quoted t)).toList →
        ∃ text, ∀ position rest, lexFrom position ((quoted t).toList ++ rest) =
          match lexFrom (position + byteLength (quoted t).toList) rest with
          | .error e => .error e
          | .ok (items, stop) => .ok (⟨.str text, position⟩ :: items, stop)) := by
  refine ⟨fun after h d hd s hs => ?_, fun s hs => ?_, fun ht => ?_⟩
  · obtain ⟨v, hv⟩ := exists_get?_resolveDerived h hd
    obtain ⟨computed, rfl⟩ := exists_quoted_of_bound (Option.some.inj (hv.symm.trans hs))
    exact ⟨⟨computed, rfl⟩, isLiteral_iff_of_isQuoted (isQuoted_quoted computed)⟩
  · obtain rfl : quoted t = s := Value.str.inj hs
    exact ⟨rfl, isLiteral_iff_of_isQuoted (isQuoted_quoted t)⟩
  · obtain ⟨text, hone⟩ := lexFrom_of_enclosable ht
    refine ⟨text, fun position rest => ?_⟩
    rw [toList_of_isQuoted (isQuoted_quoted t), List.cons_append, List.append_assoc]
    exact hone position rest

/-- A quote inside a text breaks it. -/
theorem not_isLiteral_innerQuote :
    resolveDerived .empty [⟨"b", "'x\"y'", 1⟩] = (⟨[("b", .str "\"x\"y\"")]⟩, none)
      ∧ ¬ IsLiteral "\"x\"y\"" ∧ readValue .quoted "x\"y" = .str "\"x\"y\"" := by
  have hresolve : resolveDerived .empty [⟨"b", "'x\"y'", 1⟩] =
      (⟨[("b", .str "\"x\"y\"")]⟩, none) := by decide +kernel
  obtain ⟨hbound, -⟩ := isLiteral_iff_of_bound .empty [⟨"b", "'x\"y'", 1⟩] "x\"y"
  obtain ⟨-, hiff⟩ := hbound _ hresolve ⟨"b", "'x\"y'", 1⟩ List.mem_cons_self "\"x\"y\"" rfl
  have hbroken : ¬ Enclosable (unquoted "\"x\"y\"").toList := by
    have hinside : (unquoted "\"x\"y\"").toList = ['x', '"', 'y'] := by decide
    rw [hinside]
    intro h
    cases h with
    | plain _ behind =>
        cases behind with
        | plain plain _ => exact plain (.inr rfl)
  exact ⟨hresolve, fun h => hbroken (hiff.mp h), by decide⟩

end Fanout.Expr
