/-
  Fanout.Proofs.Expr.Spelling
  ───────────────────────────
  **Tokens are read as they are spelled.**

  `Spells` says which texts stand for a token, without reference to the
  reading of tokens: digits for an integer, with underscores behind the
  first one if one likes; a text between quotes of either kind, with a
  backslash before every backslash and every quote of that kind; a name; one
  of the spellings of a symbol.  `Spaced` puts spelled tokens behind each
  other with separators between them.

    • `scan_of_spells` — a spelled token is read whole where a separator
      or nothing comes next,
    • `lex_of_spaced` — spaced tokens are read in order, and nothing else.
-/
import Fanout.Proofs.Expr.Soundness
import Fanout.Proofs.Template.Scan

namespace Fanout.Expr

open Fanout.Number Fanout.Text Fanout.Template

/-! ## §1. Spellings. -/

/-- The ways to write a symbol, the word before the sign where there are both. -/
def Symbol.spellings : Symbol → List String
  | .trueWord => ["True"]
  | .falseWord => ["False"]
  | .noneWord => ["None"]
  | .andWord => ["and", "&&"]
  | .orWord => ["or", "||"]
  | .notWord => ["not", "!"]
  | .ifWord => ["if"]
  | .elseWord => ["else"]
  | .plus => ["+"]
  | .minus => ["-"]
  | .star => ["*"]
  | .doubleStar => ["**"]
  | .slash => ["/"]
  | .doubleSlash => ["//"]
  | .percent => ["%"]
  | .eqEq => ["=="]
  | .notEq => ["!="]
  | .less => ["<"]
  | .lessEq => ["<="]
  | .greater => [">"]
  | .greaterEq => [">="]
  | .leftParen => ["("]
  | .rightParen => [")"]
  | .leftBracket => ["["]
  | .rightBracket => ["]"]
  | .comma => [","]
  | .dot => ["."]

/-- A character inside a text literal between the quotes `quote`. -/
def protectedChar (quote c : Char) : List Char := if c = '\\' ∨ c = quote then ['\\', c] else [c]

/-- A text as a literal between the quotes `quote`. -/
def quotedBy (quote : Char) (text : List Char) : List Char :=
  quote :: (text.flatMap (protectedChar quote) ++ [quote])

/-- A name that is no keyword. -/
structure IsFreeName (name : String) : Prop where
  /-- It is a name. -/
  isName : isName name.toList = true
  /-- It is no keyword. -/
  noKeyword : keywords.lookup name = none

/-- The texts that stand for a token. -/
inductive Spells : List Char → Token → Prop where
  /-- Digits, with underscores behind the first one. -/
  | int {c : Char} {cs : List Char} {n : Int64} (digit : c.isDigit = true)
      (others : ∀ d ∈ cs, isNumberChar d = true)
      (value : (digitsValue (dropUnderscores (c :: cs)) : Int) = n.toInt) :
      Spells (c :: cs) (.int n)
  /-- A text between quotes. -/
  | str {quote : Char} (isQuote : quote = '"' ∨ quote = '\'') (text : String) :
      Spells (quotedBy quote text.toList) (.str text)
  /-- A name. -/
  | ident {name : String} (free : IsFreeName name) : Spells name.toList (.ident name)
  /-- A word or a sign. -/
  | symbol {s : Symbol} {w : String} (spelling : w ∈ s.spellings) : Spells w.toList (.symbol s)

/-- A separator comes next, or nothing. -/
def Apart (rest : List Char) : Prop := ∀ c, rest.head? = some c → isSeparator c = true

/-- Spelled tokens with separators between them. -/
inductive Spaced : List Char → List Token → Prop where
  /-- Separators alone. -/
  | blank {gap : List Char} (blank : ∀ c ∈ gap, isSeparator c = true) : Spaced gap []
  /-- One more token in front, set apart from what follows. -/
  | token {gap w rest : List Char} {t : Token} {ts : List Token}
      (blank : ∀ c ∈ gap, isSeparator c = true) (spelled : Spells w t) (apart : Apart rest)
      (others : Spaced rest ts) : Spaced (gap ++ (w ++ rest)) (t :: ts)

/-! ## §2. Characters. -/

theorem isDigit_of_isNameStart {c : Char} (h : isNameStart c = true) : c.isDigit = false := by
  -- The ranges of letters and digits do not meet, and the underscore is no digit.
  change ((decide (65 ≤ c.val ∧ c.val ≤ 90) || (decide (97 ≤ c.val) && decide (c.val ≤ 122))) ||
    c == '_') = true at h
  show (decide (48 ≤ c.val) && decide (c.val ≤ 57)) = false
  simp only [Bool.or_eq_true, Bool.and_eq_true, decide_eq_true_eq, beq_iff_eq,
    UInt32.le_iff_toNat_le, Bool.and_eq_false_iff, decide_eq_false_iff_not] at h ⊢
  rcases h with h | rfl
  · change (65 ≤ c.val.toNat ∧ c.val.toNat ≤ 90) ∨ (97 ≤ c.val.toNat ∧ c.val.toNat ≤ 122) at h
    change ¬ 48 ≤ c.val.toNat ∨ ¬ c.val.toNat ≤ 57
    omega
  · decide

/-- No digit begins a name. -/
theorem isNameStart_of_isDigit {c : Char} (h : c.isDigit = true) : isNameStart c = false := by
  by_contra hn
  rw [isDigit_of_isNameStart (Bool.not_eq_false _ ▸ hn)] at h
  cases h

/-- No separator belongs to a name. -/
theorem isNameChar_of_isSeparator {c : Char} (h : isSeparator c = true) :
    isNameChar c = false := by
  unfold isSeparator at h
  simp only [Bool.or_eq_true, beq_iff_eq] at h
  rcases h with ((rfl | rfl) | rfl) | rfl <;> decide

theorem isSeparator_of_isNameChar {c : Char} (h : isNameChar c = true) : isSeparator c = false := by
  by_contra hn
  rw [isNameChar_of_isSeparator (Bool.not_eq_false _ ▸ hn)] at h
  cases h

theorem isNameChar_of_isNumberChar {c : Char} (h : isNumberChar c = true) :
    isNameChar c = true := by
  unfold isNumberChar at h
  unfold isNameChar Char.isAlphanum
  rw [Bool.or_eq_true] at h ⊢
  rcases h with h | h
  · exact .inl (by rw [h, Bool.or_true])
  · exact .inr h

theorem isNumberChar_of_isDigit {c : Char} (h : c.isDigit = true) : isNumberChar c = true := by
  unfold isNumberChar
  rw [h, Bool.true_or]

/-- No separator belongs to a number. -/
theorem isNumberChar_of_isSeparator {c : Char} (h : isSeparator c = true) :
    isNumberChar c = false := by
  by_contra hn
  have hname := isNameChar_of_isNumberChar (Bool.not_eq_false _ ▸ hn)
  rw [isNameChar_of_isSeparator h] at hname
  cases hname

/-- A separator sets apart. -/
theorem apart_cons {c : Char} (h : isSeparator c = true) (cs : List Char) : Apart (c :: cs) := by
  intro d hd
  cases hd
  exact h

/-- A character that is no separator does not come next. -/
theorem Apart.head?_ne {rest : List Char} (h : Apart rest) {d : Char}
    (hd : isSeparator d = false) : rest.head? ≠ some d := by
  intro he
  rw [h d he] at hd
  cases hd

/-- A run of characters without separators is read whole. -/
theorem takeWhile_of_apart {p : Char → Bool} (hp : ∀ c, isSeparator c = true → p c = false)
    {w rest : List Char} (hw : ∀ c ∈ w, p c = true) (hr : Apart rest) :
    (w ++ rest).takeWhile p = w ∧ (w ++ rest).dropWhile p = rest :=
  takeWhile_append_of_stop hw fun c hc => hp c (hr c hc)

/-- What begins with a character of names is a number, a word or nothing at all. -/
theorem scan_of_isNameChar {c : Char} (h : isNameChar c = true) (cs : List Char) :
    scan c cs = if c.isDigit then scanNumber c cs
      else if isNameStart c then .ok (scanWord c cs) else .error (.strayCharacter c) := by
  have hne : ∀ d, isNameChar d = false → c ≠ d := by
    intro d hd hcd
    rw [← hcd, h] at hd
    cases hd
  have hsingle : singleSymbol? c = none := by
    unfold singleSymbol?
    split <;> first | rfl | exact absurd h (by decide)
  have hextensible : extensibleSymbol? c = none := by
    unfold extensibleSymbol?
    split <;> first | rfl | exact absurd h (by decide)
  have htwin : twinSymbol? c = none := by
    unfold twinSymbol?
    split <;> first | rfl | exact absurd h (by decide)
  have hquote : ¬ (c = '"' ∨ c = '\'') := by
    intro hq
    rcases hq with hq | hq
    · exact hne '"' (by decide) hq
    · exact hne '\'' (by decide) hq
  unfold scan
  simp only [hsingle, hextensible, htwin, if_neg hquote, if_neg (hne '.' (by decide))]

/-! ## §3. Numbers. -/

theorem readFraction_of_apart {rest : List Char} (h : Apart rest) : readFraction rest = none := by
  have hdot := h.head?_ne (d := '.') (by decide)
  unfold readFraction
  split
  · exact absurd rfl hdot
  · exact absurd rfl hdot
  · rfl

theorem readPower_of_apart {rest : List Char} (h : Apart rest) : readPower rest = none := by
  cases rest with
  | nil => rfl
  | cons c rest =>
      have he : ¬ (c = 'e' ∨ c = 'E') := by
        intro he
        rcases he with rfl | rfl
        · exact h.head?_ne (d := 'e') (by decide) rfl
        · exact h.head?_ne (d := 'E') (by decide) rfl
      rw [readPower, if_neg he]

/-- Digits, with underscores behind the first one, are read as an integer. -/
theorem scan_of_digits {c : Char} {cs rest : List Char} {n : Int64} (hc : c.isDigit = true)
    (hcs : ∀ d ∈ cs, isNumberChar d = true)
    (hn : (digitsValue (dropUnderscores (c :: cs)) : Int) = n.toInt) (hr : Apart rest) :
    scan c (cs ++ rest) = .ok ⟨.int n, cs.length⟩ := by
  have hfirst := isNumberChar_of_isDigit hc
  have hall : ∀ d ∈ c :: cs, isNumberChar d = true := by
    intro d hd
    rcases List.mem_cons.mp hd with rfl | hd
    · exact hfirst
    · exact hcs d hd
  obtain ⟨htake, hdrop⟩ := takeWhile_of_apart (fun _ => isNumberChar_of_isSeparator) hall hr
  rw [List.cons_append] at htake hdrop
  have hbehind : (c :: (cs ++ rest)).drop (cs.length + 1) = rest := List.drop_left
  have hnone : dropUnderscores [] = [] := rfl
  rw [scan_of_isNameChar (isNameChar_of_isNumberChar hfirst), if_pos hc]
  unfold scanNumber
  -- Neither a point nor an exponent stands behind the digits.
  simp only [htake, hdrop, readFraction_of_apart hr, Option.map_none, Option.getD_none,
    Nat.add_zero, List.length_cons, hbehind, readPower_of_apart hr, Option.isSome_none,
    Bool.false_eq_true, if_false, hnone, List.append_nil, hn, narrow?_toInt, Nat.add_sub_cancel]

/-! ## §4. Texts. -/

/-- A quote ends a text. -/
theorem readText_quote (quote : Char) (rest : List Char) :
    readText quote (quote :: rest) = some ([], 1) := by
  rw [readText.eq_def]
  exact if_pos rfl

/-- A character that is neither the quote nor a backslash stands for itself. -/
theorem readText_plain {quote c : Char} (hc : ¬ (c = '\\' ∨ c = quote)) (rest : List Char) :
    readText quote (c :: rest) =
      (readText quote rest).map fun (text, n) => (c :: text, n + 1) := by
  rw [readText.eq_def]
  show ite _ _ (ite _ _ _) = _
  rw [if_neg fun h => hc (.inr h), if_neg fun h => hc (.inl h)]

/-- A backslash before a backslash or the quote makes it stand for itself. -/
theorem readText_protected {quote c : Char} (hq : quote = '"' ∨ quote = '\'')
    (hc : c = '\\' ∨ c = quote) (rest : List Char) :
    readText quote ('\\' :: c :: rest) =
      (readText quote rest).map fun (text, n) => (c :: text, n + 2) := by
  have hback : ¬ '\\' = quote := by
    intro h
    rcases hq with rfl | rfl <;> exact absurd h (by decide)
  have hunescape : unescape c = [c] := by
    rcases hc with rfl | rfl
    · rfl
    · rcases hq with rfl | rfl <;> rfl
  rw [readText, if_neg hback, if_pos rfl, hunescape]
  rfl

/-- A text between quotes is read back. -/
theorem readText_quoted {quote : Char} (hq : quote = '"' ∨ quote = '\'') (text rest : List Char) :
    readText quote (text.flatMap (protectedChar quote) ++ quote :: rest) =
      some (text, (text.flatMap (protectedChar quote)).length + 1) := by
  induction text with
  | nil => exact readText_quote quote rest
  | cons c text ih =>
      rw [List.flatMap_cons, List.append_assoc]
      by_cases hc : c = '\\' ∨ c = quote
      · have hprotected : protectedChar quote c = ['\\', c] := if_pos hc
        rw [hprotected, List.cons_append, List.cons_append, List.nil_append,
          readText_protected hq hc, ih]
        simp
      · have hprotected : protectedChar quote c = [c] := if_neg hc
        rw [hprotected, List.cons_append, List.nil_append, readText_plain hc, ih]
        simp

/-- A quote is no sign. -/
theorem quote_not_symbol {quote : Char} (hq : quote = '"' ∨ quote = '\'') :
    singleSymbol? quote = none ∧ extensibleSymbol? quote = none ∧ twinSymbol? quote = none := by
  rcases hq with rfl | rfl
  · exact ⟨rfl, rfl, rfl⟩
  · exact ⟨rfl, rfl, rfl⟩

/-- A quote begins a text. -/
theorem scan_of_readText {quote : Char} (hq : quote = '"' ∨ quote = '\'') {cs text : List Char}
    {n : Nat} (h : readText quote cs = some (text, n)) :
    scan quote cs = .ok ⟨.str (String.ofList text), n⟩ := by
  obtain ⟨hsingle, hextensible, htwin⟩ := quote_not_symbol hq
  unfold scan
  simp only [hsingle, hextensible, htwin, if_pos hq, h]

/-- A text without an end is no token. -/
theorem scan_of_readText_none {quote : Char} (hq : quote = '"' ∨ quote = '\'') {cs : List Char}
    (h : readText quote cs = none) : scan quote cs = .error .openText := by
  obtain ⟨hsingle, hextensible, htwin⟩ := quote_not_symbol hq
  unfold scan
  simp only [hsingle, hextensible, htwin, if_pos hq, h]

/-- A text literal is read as its text. -/
theorem scan_of_quotedBy {quote : Char} (hq : quote = '"' ∨ quote = '\'') (text : String)
    {c : Char} {cs : List Char} (hw : quotedBy quote text.toList = c :: cs) (rest : List Char) :
    scan c (cs ++ rest) = .ok ⟨.str text, cs.length⟩ := by
  obtain ⟨rfl, rfl⟩ := List.cons.inj hw
  have hread := readText_quoted hq text.toList rest
  rw [List.append_assoc, List.singleton_append, scan_of_readText hq hread, String.ofList_toList]
  simp

/-! ## §5. Words and signs. -/

/-- A word is read whole, as a keyword or a name. -/
theorem scan_of_isName {c : Char} {cs rest : List Char} (h : isName (c :: cs) = true)
    (hr : Apart rest) :
    scan c (cs ++ rest) = .ok ⟨wordToken (String.ofList (c :: cs)), cs.length⟩ := by
  rw [isName, Bool.and_eq_true, List.all_eq_true] at h
  rw [scan_of_isNameChar (isNameChar_of_isNameStart h.1), isDigit_of_isNameStart h.1,
    if_neg Bool.false_ne_true, if_pos h.1]
  unfold scanWord
  dsimp only
  rw [(takeWhile_of_apart (fun _ => isNameChar_of_isSeparator) h.2 hr).1]

/-- How the reading of tokens finds a symbol. -/
inductive Found : List Char → Symbol → Prop where
  /-- Among the words. -/
  | word {w : List Char} {s : Symbol} (isName : isName w = true)
      (keyword : keywords.lookup (String.ofList w) = some s) : Found w s
  /-- Among the signs of one character. -/
  | single {c : Char} {s : Symbol} (sign : singleSymbol? c = some s) : Found [c] s
  /-- Among the signs of one character that another one can extend. -/
  | short {c next : Char} {s t : Symbol} (sign : extensibleSymbol? c = some (s, next, t)) :
      Found [c] s
  /-- Among the signs that extend others. -/
  | long {c next : Char} {s t : Symbol} (sign : extensibleSymbol? c = some (t, next, s)) :
      Found [c, next] s
  /-- Among the signs that are written twice. -/
  | twin {c : Char} {s : Symbol} (sign : twinSymbol? c = some s) : Found [c, c] s
  /-- As the point. -/
  | dot : Found ['.'] .dot

theorem found_of_mem_spellings {s : Symbol} {w : String} (h : w ∈ s.spellings) :
    Found w.toList s := by
  cases s <;>
    simp only [Symbol.spellings, List.mem_cons, List.not_mem_nil, or_false] at h
  case trueWord | falseWord | noneWord | ifWord | elseWord =>
    subst h
    exact .word (by decide) (by decide)
  case andWord | orWord =>
    obtain rfl | rfl := h
    · exact .word (by decide) (by decide)
    · exact .twin rfl
  case notWord =>
    obtain rfl | rfl := h
    · exact .word (by decide) (by decide)
    · exact .short rfl
  case plus | minus | percent | leftParen | rightParen | leftBracket | rightBracket | comma =>
    subst h
    exact .single rfl
  case star | slash | less | greater =>
    subst h
    exact .short rfl
  case doubleStar | doubleSlash | lessEq | greaterEq | notEq =>
    subst h
    exact .long rfl
  case eqEq =>
    subst h
    exact .twin rfl
  case dot =>
    subst h
    exact .dot

/-- A sign that another character can extend is no sign on its own, and that character is no
separator. -/
theorem of_extensibleSymbol? {c next : Char} {s t : Symbol}
    (h : extensibleSymbol? c = some (s, next, t)) :
    singleSymbol? c = none ∧ isSeparator next = false := by
  unfold extensibleSymbol? at h
  split at h
  case h_6 => cases h
  all_goals
    injection h with h
    injection h with hs ht
    injection ht with hnext ht
    subst hnext
    exact ⟨rfl, rfl⟩

/-- A sign that is written twice is not read by its first character. -/
theorem of_twinSymbol? {c : Char} {s : Symbol} (h : twinSymbol? c = some s) :
    singleSymbol? c = none ∧ extensibleSymbol? c = none := by
  unfold twinSymbol? at h
  split at h
  case h_4 => cases h
  all_goals exact ⟨rfl, rfl⟩

theorem scan_of_found {s : Symbol} {w : List Char} (h : Found w s) {c : Char} {cs rest : List Char}
    (hw : w = c :: cs) (hr : Apart rest) : scan c (cs ++ rest) = .ok ⟨.symbol s, cs.length⟩ := by
  cases h with
  | word isName keyword =>
      subst hw
      rw [scan_of_isName isName hr, wordToken, keyword]
  | single sign =>
      obtain ⟨rfl, rfl⟩ := List.cons.inj hw
      unfold scan
      rw [sign]
      rfl
  | short sign =>
      -- the character that would make the sign longer is no separator
      obtain ⟨rfl, rfl⟩ := List.cons.inj hw
      obtain ⟨hsingle, hnext⟩ := of_extensibleSymbol? sign
      unfold scan
      rw [hsingle, sign]
      dsimp only
      rw [List.nil_append, if_neg (hr.head?_ne hnext)]
      rfl
  | long sign =>
      obtain ⟨rfl, rfl⟩ := List.cons.inj hw
      obtain ⟨hsingle, -⟩ := of_extensibleSymbol? sign
      unfold scan
      rw [hsingle, sign]
      exact congrArg Except.ok (if_pos rfl)
  | twin sign =>
      obtain ⟨rfl, rfl⟩ := List.cons.inj hw
      obtain ⟨hsingle, hextensible⟩ := of_twinSymbol? sign
      unfold scan
      rw [hsingle, hextensible, sign]
      exact if_pos rfl
  | dot =>
      -- a digit behind the point would make it a number
      obtain ⟨rfl, rfl⟩ := List.cons.inj hw
      have hdigit : rest.head?.any Char.isDigit = false := by
        cases rest with
        | nil => rfl
        | cons d rest =>
            by_contra hn
            have hnumber := isNumberChar_of_isDigit (Bool.not_eq_false _ ▸ hn)
            rw [isNumberChar_of_isSeparator (hr d rfl)] at hnumber
            cases hnumber
      show (if rest.head?.any Char.isDigit then scanNumber '.' rest
        else .ok ⟨.symbol .dot, 0⟩) = _
      rw [hdigit]
      rfl

/-! ## §6. Whole texts. -/

/-- What spells a token begins with a character that is no separator. -/
theorem Spells.exists_cons {w : List Char} {t : Token} (h : Spells w t) :
    ∃ c cs, w = c :: cs ∧ isSeparator c = false := by
  -- Separators belong neither to names nor to numbers.
  cases h with
  | int digit others value =>
      exact ⟨_, _, rfl, isSeparator_of_isNameChar
        (isNameChar_of_isNumberChar (isNumberChar_of_isDigit digit))⟩
  | str isQuote text =>
      refine ⟨_, _, rfl, ?_⟩
      rcases isQuote with rfl | rfl <;> rfl
  | @ident name free =>
      cases hw : name.toList with
      | nil =>
          have hfree := free.isName
          rw [hw] at hfree
          cases hfree
      | cons c cs =>
          exact ⟨c, cs, rfl,
            isSeparator_of_isNameChar (isNameChar_of_mem free.isName c (by rw [hw]; simp))⟩
  | @symbol s w spelling =>
      have hall : ∀ s : Symbol, ∀ w ∈ s.spellings, ∃ c cs, w.toList = c :: cs ∧
          isSeparator c = false := by
        intro s
        cases s <;> simp [Symbol.spellings, isSeparator]
      exact hall s w spelling

/-- **A spelled token is read whole.** -/
theorem scan_of_spells {t : Token} {c : Char} {cs rest : List Char} (h : Spells (c :: cs) t)
    (hr : Apart rest) : scan c (cs ++ rest) = .ok ⟨t, cs.length⟩ := by
  generalize hw : c :: cs = w at h
  cases h with
  | int digit others value =>
      obtain ⟨rfl, rfl⟩ := List.cons.inj hw
      exact scan_of_digits digit others value hr
  | str isQuote text => exact scan_of_quotedBy isQuote text hw.symm rest
  | @ident name free =>
      have hname := free.isName
      rw [← hw] at hname
      rw [scan_of_isName hname hr, hw, String.ofList_toList, wordToken, free.noKeyword]
  | symbol spelling => exact scan_of_found (found_of_mem_spellings spelling) hw.symm hr

/-- Separators before a text move it. -/
theorem lexFrom_of_blank {gap : List Char} (h : ∀ c ∈ gap, isSeparator c = true) (position : Nat)
    (cs : List Char) : lexFrom position (gap ++ cs) = lexFrom (position + gap.length) cs := by
  induction gap generalizing position with
  | nil => rfl
  | cons c gap ih =>
      rw [List.cons_append, lexFrom, if_pos (h c List.mem_cons_self),
        ih fun d hd => h d (List.mem_cons_of_mem c hd), List.length_cons, Nat.add_assoc,
        Nat.add_comm 1]

/-- A token is read, and then what is behind it. -/
theorem lexFrom_of_scan {c : Char} {cs : List Char} {s : Scan} (hc : isSeparator c = false)
    (h : scan c cs = .ok s) (position : Nat) :
    lexFrom position (c :: cs) =
      match lexFrom (position + byteLength (c :: cs.take s.extra)) (cs.drop s.extra) with
      | .error e => .error e
      | .ok (items, stop) => .ok (⟨s.token, position⟩ :: items, stop) := by
  rw [lexFrom, if_neg (Bool.eq_false_iff.mp hc)]
  generalize scan c cs = found at h
  subst h
  rfl

/-- A spelled token alone is spaced, whatever separators come first. -/
theorem Spells.spaced {gap w : List Char} {t : Token} (h : Spells w t)
    (hgap : ∀ c ∈ gap, isSeparator c = true) : Spaced (gap ++ w) [t] := by
  have hapart : Apart [] := by
    intro c hc
    cases hc
  have hnothing : Spaced [] [] := .blank (by simp)
  have halone := Spaced.token hgap h hapart hnothing
  rwa [List.append_nil] at halone

/-- Spaced tokens are read in order. -/
theorem lexFrom_of_spaced {cs : List Char} {ts : List Token} (h : Spaced cs ts) :
    ∀ position, ∃ items stop, lexFrom position cs = .ok (items, stop) ∧ tokensOf items = ts := by
  -- Token by token: the separators are skipped, the token is read whole.
  induction h with
  | @blank gap blank =>
      intro position
      refine ⟨[], position + gap.length, ?_, rfl⟩
      have hskip := lexFrom_of_blank blank position []
      rw [List.append_nil] at hskip
      rw [hskip, lexFrom]
  | @token gap w rest t ts blank spelled apart others ih =>
      intro position
      obtain ⟨c, cs, rfl, hc⟩ := spelled.exists_cons
      obtain ⟨items, stop, hrest, rfl⟩ :=
        ih (position + gap.length + byteLength (c :: (cs ++ rest).take cs.length))
      refine ⟨⟨t, position + gap.length⟩ :: items, stop, ?_, rfl⟩
      have hbehind : (cs ++ rest).drop cs.length = rest := List.drop_left
      rw [lexFrom_of_blank blank, List.cons_append,
        lexFrom_of_scan hc (scan_of_spells spelled apart)]
      simp only [hbehind, hrest]

theorem lexFrom_of_lex {cs : List Char} {items : List Located} {stop : Nat}
    (h : lex cs = .ok ⟨items, stop⟩) : lexFrom 0 cs = .ok (items, stop) := by
  unfold lex at h
  split at h
  · cases h
  · cases h
  · rename_i hlex
    obtain ⟨rfl, rfl⟩ := Tokens.mk.inj (Except.ok.inj h)
    exact hlex

/-- **Spaced tokens are the tokens of their text.** -/
theorem lex_of_spaced {cs : List Char} {ts : List Token} (h : Spaced cs ts) (hts : ts ≠ []) :
    ∃ items stop, lex cs = .ok ⟨items, stop⟩ ∧ tokensOf items = ts := by
  obtain ⟨items, stop, hlex, rfl⟩ := lexFrom_of_spaced h 0
  refine ⟨items, stop, ?_, rfl⟩
  cases items with
  | nil => exact absurd rfl hts
  | cons item items =>
      unfold lex
      rw [hlex]

end Fanout.Expr
