/-
  Fanout.Proofs.Expr.Cursor
  ─────────────────────────
  **Reading tokens by bytes is reading them by characters.**

  Every kind of byte that the reading looks for is ASCII, and the bytes of
  other characters are not.  So a cursor between two characters sees the
  next character if it is ASCII, and otherwise something that belongs to no
  token; it skips a byte only with its character, and stays between
  characters:

    • `skipWhile_between`, `slice_between` — what a cursor between characters
      skips and takes out,
    • `skipFraction?_between`, `skipPower?_between`, `closing_eq` — the
      manual arithmetic of numbers and texts,
    • `number_between`, `token_between` — a token is read as `scan` reads it,
      and its number has a value or is too large,
    • `turns_between`, `exists_lexWithin` — so is a whole text, within one
      turn for each byte.
-/
import Fanout.Expr.Token.Cursor
import Fanout.Proofs.Expr.NumberParts
import Fanout.Proofs.Expr.Separated

namespace Fanout.Expr

open Fanout.Number Fanout.Text Fanout.Template

/-! ## §1. Bytes and characters. -/

/-- The bytes of a text as characters. -/
def letters (cs : List Char) : List Char := (utf8 cs).map letter

/-- A number below 256 is the code of the byte it makes. -/
theorem toNat_letter {n : Nat} (h : n < 256) : (letter (UInt8.ofNat n)).toNat = n := by
  have hvalid : n.isValidChar := .inl (by omega)
  rw [letter, UInt8.toNat_ofNat_of_lt' h, Char.toNat_ofNat, if_pos hvalid]

/-- The byte of an ASCII character is that character. -/
theorem letters_cons {c : Char} (hc : c.toNat < 128) (cs : List Char) :
    letters (c :: cs) = c :: letters cs := by
  have hone : String.utf8EncodeChar c = [UInt8.ofNat c.toNat] := by
    rw [String.utf8EncodeChar]
    exact if_pos (Nat.le_of_lt_succ hc)
  have hletter : letter (UInt8.ofNat c.toNat) = c :=
    Char.toNat_inj.mp (toNat_letter (by omega))
  rw [letters, utf8, List.flatMap_cons, hone, List.singleton_append, List.map_cons, hletter]
  rfl

/-- Another character begins with a byte that is not ASCII. -/
theorem exists_letters_cons {c : Char} (hc : 128 ≤ c.toNat) (cs : List Char) :
    ∃ d ds, letters (c :: cs) = d :: ds ∧ 128 ≤ d.toNat := by
  have hfirst : ∃ n bs, String.utf8EncodeChar c = UInt8.ofNat n :: bs ∧ 128 ≤ n ∧ n < 256 := by
    have hone : ¬ c.val.toNat ≤ 127 := Nat.not_le_of_lt hc
    unfold String.utf8EncodeChar
    simp only [if_neg hone]
    -- Two, three or four bytes, told apart by what is added to the first one.
    split
    · exact ⟨_, _, rfl, by omega, by omega⟩
    · split
      · exact ⟨_, _, rfl, by omega, by omega⟩
      · exact ⟨_, _, rfl, by omega, by omega⟩
  obtain ⟨n, bs, hbytes, hlow, hhigh⟩ := hfirst
  refine ⟨letter (UInt8.ofNat n), (bs ++ utf8 cs).map letter, ?_, ?_⟩
  · rw [letters, utf8, List.flatMap_cons, hbytes, List.cons_append, List.map_cons]
    rfl
  · rw [toNat_letter hhigh]
    exact hlow

/-- A kind of ASCII characters. -/
def IsAscii (p : Char → Bool) : Prop := ∀ c, p c = true → c.toNat < 128

theorem IsAscii.eq_false {p : Char → Bool} (hp : IsAscii p) {c : Char} (hc : 128 ≤ c.toNat) :
    p c = false := by
  rw [← Bool.not_eq_true]
  exact fun h => absurd (hp c h) (Nat.not_lt_of_le hc)

theorem isAscii_isNameChar : IsAscii isNameChar := by
  intro c h
  unfold isNameChar Char.isAlphanum Char.isAlpha Char.isUpper Char.isLower Char.isDigit at h
  simp only [Bool.or_eq_true, Bool.and_eq_true, decide_eq_true_eq, beq_iff_eq, ge_iff_le,
    UInt32.le_iff_toNat_le] at h
  change c.val.toNat < 128
  rcases h with ((⟨-, h⟩ | ⟨-, h⟩) | ⟨-, h⟩) | rfl
  · exact Nat.lt_of_le_of_lt h (by decide)
  · exact Nat.lt_of_le_of_lt h (by decide)
  · exact Nat.lt_of_le_of_lt h (by decide)
  · decide

theorem IsAscii.of_imp {p q : Char → Bool} (hq : IsAscii q) (h : ∀ c, p c = true → q c = true) :
    IsAscii p :=
  fun c hc => hq c (h c hc)

theorem isAscii_isNumberChar : IsAscii isNumberChar :=
  isAscii_isNameChar.of_imp fun _ => isNameChar_of_isNumberChar

theorem isAscii_isDigit : IsAscii Char.isDigit :=
  isAscii_isNumberChar.of_imp fun _ => isNumberChar_of_isDigit

theorem isAscii_isNameStart : IsAscii isNameStart :=
  isAscii_isNameChar.of_imp fun _ => isNameChar_of_isNameStart

theorem isAscii_isSeparator : IsAscii isSeparator := by
  intro c h
  have hle := UInt32.le_iff_toNat_le.mp (Char.utf8Size_eq_one_iff.mp (utf8Size_of_isSeparator h))
  exact Nat.lt_succ_of_le hle

theorem isAscii_beq {d : Char} (hd : d.toNat < 128) : IsAscii (· == d) := by
  intro c h
  rw [beq_iff_eq] at h
  rw [h]
  exact hd

/-- An ASCII character is one byte. -/
theorem utf8Size_of_lt {c : Char} (hc : c.toNat < 128) : c.utf8Size = 1 :=
  Char.utf8Size_eq_one_iff.mpr (UInt32.le_iff_toNat_le.mpr (Nat.le_of_lt_succ hc))

/-- The first byte is of a kind of ASCII characters if the first character is. -/
theorem any_head?_letters {p : Char → Bool} (hp : IsAscii p) (cs : List Char) :
    (letters cs).head?.any p = cs.head?.any p := by
  cases cs with
  | nil => rfl
  | cons c cs =>
      by_cases hc : c.toNat < 128
      · rw [letters_cons hc]
        rfl
      · have hc := Nat.le_of_not_lt hc
        obtain ⟨d, ds, hletters, hd⟩ := exists_letters_cons hc cs
        rw [hletters]
        show p d = p c
        rw [hp.eq_false hd, hp.eq_false hc]

/-- A run of ASCII characters is the run of their bytes. -/
theorem takeWhile_letters {p : Char → Bool} (hp : IsAscii p) (cs : List Char) :
    (letters cs).takeWhile p = cs.takeWhile p := by
  induction cs with
  | nil => rfl
  | cons c cs ih =>
      by_cases hc : p c = true
      · rw [letters_cons (hp c hc), List.takeWhile_cons_of_pos hc, List.takeWhile_cons_of_pos hc, ih]
      · have hhead : (c :: cs).head?.any p = false := Bool.not_eq_true _ ▸ hc
        have hnone : ((letters (c :: cs)).takeWhile p).isEmpty = true := by
          rw [isEmpty_takeWhile, any_head?_letters hp, hhead]
          rfl
        rw [List.takeWhile_cons_of_neg hc, List.isEmpty_iff.mp hnone]

theorem byteLength_of_isAscii {cs : List Char} :
    (∀ c ∈ cs, c.toNat < 128) → byteLength cs = cs.length := by
  induction cs with
  | nil => intro _; rfl
  | cons c cs ih =>
      intro h
      rw [byteLength, utf8Size_of_lt (h c List.mem_cons_self),
        ih fun d hd => h d (List.mem_cons_of_mem c hd), List.length_cons, Nat.add_comm]

/-! ## §2. Cursors between characters. -/

namespace Cursor

/-- The cursor between two parts of a text. -/
def between (before after : List Char) : Cursor := ⟨before ++ after, byteLength before⟩

variable {before after cs : List Char} {c : Char} {p : Char → Bool}

theorem ahead_between : (between before after).ahead = letters after := by
  have hdrop : (utf8 (before ++ after)).drop (byteLength before) = utf8 after := by
    rw [utf8_append, ← length_utf8, List.drop_left]
  rw [ahead, between, hdrop]
  rfl

/-- What a cursor sees next is the next character, if it is of a kind of ASCII characters. -/
theorem any_peek_zero (hp : IsAscii p) :
    ((between before after).peek 0).any p = after.head?.any p := by
  rw [peek, ahead_between, ← List.head?_eq_getElem?, any_head?_letters hp]

theorem peek_zero_eq_some_iff {d : Char} (hd : d.toNat < 128) :
    (between before after).peek 0 = some d ↔ after.head? = some d := by
  have hany : ((between before after).peek 0).any (· == d) = after.head?.any (· == d) :=
    any_peek_zero (isAscii_beq hd)
  rw [Bool.eq_iff_iff, Option.any_eq_true, Option.any_eq_true] at hany
  simpa using hany

/-- Behind an ASCII character a cursor sees what one behind it sees. -/
theorem peek_succ (hc : c.toNat < 128) (n : Nat) :
    (between before (c :: after)).peek (n + 1) = (between (before ++ [c]) after).peek n := by
  rw [peek, peek, ahead_between, ahead_between, letters_cons hc, List.getElem?_cons_succ]

theorem peek_append {middle : List Char} (hmiddle : ∀ c ∈ middle, c.toNat < 128) (n : Nat) :
    (between before (middle ++ after)).peek (middle.length + n) =
      (between (before ++ middle) after).peek n := by
  induction middle generalizing before with
  | nil => rw [List.length_nil, Nat.zero_add, List.nil_append, List.append_nil]
  | cons d middle ih =>
      rw [List.length_cons, Nat.add_right_comm, List.cons_append,
        peek_succ (hmiddle d List.mem_cons_self),
        ih fun c hc => hmiddle c (List.mem_cons_of_mem d hc), List.append_assoc,
        List.singleton_append]

/-- A step of one byte goes over an ASCII character. -/
theorem advance_succ (hc : c.toNat < 128) (n : Nat) :
    (between before (c :: after)).advance (n + 1) = (between (before ++ [c]) after).advance n := by
  have hlength : byteLength (before ++ [c]) = byteLength before + 1 := by
    rw [byteLength_append]
    simp only [byteLength, utf8Size_of_lt hc]
  simp only [advance, between, hlength, List.append_assoc, List.singleton_append]
  congr 1
  omega

theorem advance_zero (k : Cursor) : k.advance 0 = k := rfl

/-- A cursor moves on by the bytes of what it reads. -/
theorem advance_byteLength (before middle after : List Char) :
    (between before (middle ++ after)).advance (byteLength middle) =
      between (before ++ middle) after := by
  simp only [advance, between, byteLength_append, List.append_assoc]

/-- **A cursor skips a run of ASCII characters.** -/
theorem skipWhile_between (hp : IsAscii p) :
    (between before after).skipWhile p =
      between (before ++ after.takeWhile p) (after.dropWhile p) := by
  have hbytes : (after.takeWhile p).length = byteLength (after.takeWhile p) :=
    (byteLength_of_isAscii fun c hc => hp c (List.mem_takeWhile_imp hc)).symm
  have hmove := advance_byteLength before (after.takeWhile p) (after.dropWhile p)
  rw [List.takeWhile_append_dropWhile] at hmove
  rw [skipWhile, ahead_between, takeWhile_letters hp, hbytes, hmove]

/-- **Between characters a text can be cut.** -/
theorem slice_between (before middle after : List Char) :
    (between before (middle ++ after)).slice (between (before ++ middle) after) = .ok middle := by
  have hcut : betweenBytes? (byteLength before) (byteLength (before ++ middle))
      (before ++ (middle ++ after)) = some middle := by
    rw [betweenBytes?, fromByte?_append, Option.bind_some, byteLength_append,
      Nat.add_sub_cancel_left, uptoByte?_append]
  simp only [slice, between, hcut]

theorem sliceToEnd_between : (between before after).sliceToEnd = .ok after := by
  simp only [sliceToEnd, between, fromByte?_append]

/-! ## §3. Numbers. -/

/-- **A cursor skips the fraction that is read.** -/
theorem skipFraction?_between (before after : List Char) :
    ∃ behind, after = fractionText (readFraction after) ++ behind ∧
      (between before after).skipFraction? =
        (readFraction after).map fun ds => between (before ++ fractionText (some ds)) behind := by
  have hpoint : (between before after).peek 0 = some '.' ↔ after.head? = some '.' :=
    peek_zero_eq_some_iff (by decide)
  by_cases hhead : after.head? = some '.'
  · obtain ⟨rest, rfl⟩ := List.head?_eq_some_iff.mp hhead
    have hnext : ((between before ('.' :: rest)).peek 1).any isNameStart =
        rest.head?.any isNameStart := by
      rw [peek_succ (by decide), any_peek_zero isAscii_isNameStart]
    rw [skipFraction?, hnext, readFraction_point]
    cases rest.head?.any isNameStart with
    | true => exact ⟨'.' :: rest, rfl, if_neg fun h => Bool.noConfusion h.2⟩
    | false =>
        refine ⟨rest.dropWhile isNumberChar, ?_, ?_⟩
        · show '.' :: rest = '.' :: (_ ++ _)
          rw [List.takeWhile_append_dropWhile]
        · rw [if_pos ⟨hpoint.mpr hhead, rfl⟩, advance_succ (by decide), advance_zero,
            skipWhile_between isAscii_isNumberChar, List.append_assoc]
          rfl
  · rw [skipFraction?, if_neg fun h => hhead (hpoint.mp h.1), readFraction_of_ne hhead]
    exact ⟨after, rfl, rfl⟩

/-- A cursor before the mark of an exponent sees the sign behind it. -/
theorem sign_between {sign unsigned : List Char} {e : Char} (he : e.toNat < 128)
    (h : IsSign sign unsigned) :
    (if (between before (e :: (sign ++ unsigned))).peek 1 = some '+' ∨
      (between before (e :: (sign ++ unsigned))).peek 1 = some '-' then 1 else 0) =
        sign.length := by
  have hsees : ∀ d : Char, d.toNat < 128 → ((between before (e :: (sign ++ unsigned))).peek 1 =
      some d ↔ (sign ++ unsigned).head? = some d) := fun d hd => by
    rw [peek_succ he, peek_zero_eq_some_iff hd]
  rcases h with ⟨rfl, hplus, hminus⟩ | rfl | rfl
  · refine if_neg fun h => ?_
    rcases h with h | h
    · exact hplus ((hsees '+' (by decide)).mp h)
    · exact hminus ((hsees '-' (by decide)).mp h)
  · exact if_pos (.inl ((hsees '+' (by decide)).mpr rfl))
  · exact if_pos (.inr ((hsees '-' (by decide)).mpr rfl))

/-- **A cursor skips the exponent that is read.** -/
theorem skipPower?_between (before after : List Char) :
    ∃ tail behind, after = tail ++ behind ∧ IsPower (readPower after) tail ∧
      (between before after).skipPower? =
        (readPower after).map fun _ => between (before ++ tail) behind := by
  have hmark : (between before after).peek 0 = some 'e' ∨ (between before after).peek 0 = some 'E' ↔
      after.head? = some 'e' ∨ after.head? = some 'E' := by
    rw [peek_zero_eq_some_iff (by decide), peek_zero_eq_some_iff (by decide)]
  cases after with
  | nil => exact ⟨[], [], rfl, isPower_none, if_neg fun h => by simpa using hmark.mp h⟩
  | cons e rest =>
      by_cases he : e = 'e' ∨ e = 'E'
      · have hseen := hmark.mpr (by simpa using he)
        have hascii : e.toNat < 128 := by rcases he with rfl | rfl <;> decide
        obtain ⟨sign, unsigned, rfl, hsign⟩ := exists_isSign rest
        have hall : ∀ c ∈ e :: sign, c.toNat < 128 :=
          List.forall_mem_cons.mpr ⟨hascii, hsign.isAscii⟩
        have hwidth : 1 + sign.length = (e :: sign).length + 0 := Nat.add_comm _ _
        have hbytes := byteLength_of_isAscii hall
        have hpeek : ((between before (e :: (sign ++ unsigned))).peek (1 + sign.length)).any
            Char.isDigit = unsigned.head?.any Char.isDigit := by
          rw [hwidth, ← List.cons_append, peek_append hall, any_peek_zero isAscii_isDigit]
        have hadvance : (between before (e :: (sign ++ unsigned))).advance (1 + sign.length) =
            between (before ++ e :: sign) unsigned := by
          rw [hwidth, Nat.add_zero, ← hbytes, ← List.cons_append, advance_byteLength]
        rw [skipPower?, if_pos hseen, readPower_mark he hsign]
        dsimp only
        rw [sign_between hascii hsign, hpeek, hadvance, skipWhile_between isAscii_isDigit]
        cases hdigit : unsigned.head?.any Char.isDigit with
        | false => exact ⟨[], _, rfl, isPower_none, rfl⟩
        | true =>
            -- The digits end the exponent, and there is one at least.
            have hne : unsigned.takeWhile Char.isDigit ≠ [] := by
              rw [← List.isEmpty_eq_false_iff, isEmpty_takeWhile, hdigit]
              rfl
            refine ⟨e :: (sign ++ unsigned.takeWhile Char.isDigit),
              unsigned.dropWhile Char.isDigit, ?_,
              isPower_powerOf he (hsign.takeWhile _) (fun c => List.mem_takeWhile_imp) hne, ?_⟩
            · rw [List.cons_append, List.append_assoc, List.takeWhile_append_dropWhile]
            · rw [List.append_assoc, List.cons_append]
              rfl
      · have hnone : readPower (e :: rest) = none := by rw [readPower, if_neg he]
        rw [hnone]
        exact ⟨[], _, rfl, isPower_none, if_neg fun h => he (by simpa using hmark.mp h)⟩

/-- The value of a number's text is the number's, or it is too large for an integer. -/
theorem numberToken_eq {whole tail : List Char} {fraction : Option (List Char)}
    {power : Option (Int × Nat)} (hwhole : ∀ c ∈ whole, isNumberChar c = true)
    (hfraction : ∀ fs, fraction = some fs → ∀ c ∈ fs, isNumberChar c = true)
    (hpower : IsPower power tail) (hne : numberDigits whole fraction ≠ []) (position : Nat) :
    numberToken (fraction.isSome || power.isSome)
        (dropUnderscores (whole ++ (fractionText fraction ++ tail))) position =
      (numberValue whole fraction power).mapError (Stop.fault · position) := by
  rw [numberToken, numberValue]
  by_cases hfloat : (fraction.isSome || power.isSome) = true
  · rw [if_pos hfloat, if_pos hfloat, readFloat?_number hwhole hfraction hpower hne]
    rfl
  · obtain ⟨rfl, rfl⟩ : fraction = none ∧ power = none := by simpa using hfloat
    have hdigits : dropUnderscores whole ≠ [] := by
      rwa [numberDigits, Option.getD_none, dropUnderscores_nil, List.append_nil] at hne
    rw [if_neg hfloat, if_neg hfloat, hpower.eq_nil, fractionText, List.append_nil,
      List.append_nil, readWord?_digits (isDigit_of_mem_dropUnderscores hwhole) hdigits]
    cases narrow? (digitsValue (dropUnderscores whole)) with
    | some n => rfl
    | none => rfl

/-- What is read at a cursor between two parts of a text, where the second part gives this. -/
def moved (before : List Char) (c : Char) (cs : List Char) :
    Except SyntaxFault Scan → Except Stop (Token × Cursor)
  | .error f => .error (.fault f (byteLength before))
  | .ok s => .ok (s.token, between (before ++ c :: cs.take s.extra) (cs.drop s.extra))

/-- A token that takes a part of the text leaves the cursor behind it. -/
theorem moved_ok {before cs middle behind : List Char} {c : Char} (h : c :: cs = middle ++ behind)
    (hne : middle ≠ []) (t : Token) :
    moved before c cs (.ok ⟨t, middle.length - 1⟩) = .ok (t, between (before ++ middle) behind) := by
  obtain ⟨d, ds, rfl⟩ := List.exists_cons_of_ne_nil hne
  obtain ⟨rfl, rfl⟩ := List.cons.inj h
  show Except.ok (t, between (before ++ c :: (ds ++ behind).take ds.length)
    ((ds ++ behind).drop ds.length)) = _
  rw [List.take_left, List.drop_left]

/-- **A number is read by bytes as it is read by characters**: its float is never refused. -/
theorem number_between (before : List Char) (h : BeginsNumber c cs) :
    (between before (c :: cs)).number = moved before c cs (scanNumber c cs) := by
  obtain ⟨after, hleft, hskipFraction⟩ := skipFraction?_between
    (before ++ (c :: cs).takeWhile isNumberChar) ((c :: cs).dropWhile isNumberChar)
  have hne := h.numberDigits_ne_nil
  have hnumber : ∀ fs, readFraction ((c :: cs).dropWhile isNumberChar) = some fs →
      ∀ d ∈ fs, isNumberChar d = true := fun fs => isNumberChar_of_readFraction
  have hscan := @scanNumber_eq c cs after
  generalize hfraction : readFraction ((c :: cs).dropWhile isNumberChar) = fraction at *
  generalize hwhole : (c :: cs).takeWhile isNumberChar = whole at *
  obtain ⟨tail, behind, hafter, hpower, hskipPower⟩ := skipPower?_between
    (before ++ whole ++ fractionText fraction) after
  have hdigits : ∀ d ∈ whole, isNumberChar d = true := hwhole ▸ fun d => List.mem_takeWhile_imp
  have htext : c :: cs = whole ++ (fractionText fraction ++ tail) ++ behind := by
    rw [← List.takeWhile_append_dropWhile (p := isNumberChar) (l := c :: cs), hwhole, hleft, hafter]
    simp only [List.append_assoc]
  have hpointed : (fraction.map fun ds => between (before ++ whole ++ fractionText (some ds))
      after).getD (between (before ++ whole) ((c :: cs).dropWhile isNumberChar)) =
        between (before ++ whole ++ fractionText fraction) after := by
    cases fraction with
    | some ds => rfl
    | none => rw [hleft, fractionText, List.append_nil]; rfl
  have hlast : ((readPower after).map fun _ => between (before ++ whole ++ fractionText fraction ++
      tail) behind).getD (between (before ++ whole ++ fractionText fraction) after) =
        between (before ++ (whole ++ (fractionText fraction ++ tail))) behind := by
    rw [← List.append_assoc, ← List.append_assoc]
    cases hread : readPower after with
    | some power => rfl
    | none =>
        rw [hread] at hpower
        rw [hafter, hpower.eq_nil, List.append_nil]
        rfl
  unfold number
  rw [skipWhile_between isAscii_isNumberChar, hwhole]
  dsimp only
  rw [hskipFraction, hpointed, hskipPower, hlast, htext, slice_between, Option.isSome_map,
    Option.isSome_map]
  show ((numberToken _ _ (byteLength before)).bind fun t => .ok (t, _)) = _
  rw [numberToken_eq hdigits hnumber hpower hne, hscan rfl hleft hpower]
  cases numberValue whole fraction (readPower after) with
  | error f => rfl
  | ok t =>
      refine (moved_ok htext ?_ t).symm
      intro hempty
      obtain ⟨rfl, hrest⟩ := List.append_eq_nil_iff.mp hempty
      cases fraction with
      | none => exact hne rfl
      | some ds => cases hrest

/-! ## §5. Texts, words and signs. -/

/-- What is between quotes is found by bytes as it is by characters. -/
theorem closing_eq {quote : Char} (hquote : quote.toNat < 128) (cs : List Char) :
    ∀ i : Nat, closing quote i cs =
      (readText quote cs).map fun (text, n) => (text, i + byteLength (cs.take n)) := by
  fun_induction readText quote cs with
  | case1 => intro i; rfl
  | case2 cs =>
      intro i
      rw [closing.eq_def]
      show ite _ _ _ = some ([], i + byteLength [quote])
      rw [if_pos rfl, byteLength, utf8Size_of_lt hquote]
      rfl
  | case3 hback =>
      intro i
      rw [closing, if_neg hback, if_pos rfl]
      rfl
  | case4 e rest hback ih =>
      intro i
      have hone : '\\'.utf8Size = 1 := rfl
      rw [closing, if_neg hback, if_pos rfl, ih]
      cases readText quote rest with
      | none => rfl
      | some found =>
          show some (_, _) = some (_, i + byteLength ('\\' :: e :: rest.take found.2))
          rw [byteLength, byteLength, hone, Nat.add_assoc, Nat.add_assoc]
  | case5 c cs hquote hback ih =>
      intro i
      rw [closing.eq_def]
      show ite _ _ (ite _ _ _) = _
      rw [if_neg hquote, if_neg hback, ih]
      cases readText quote cs with
      | none => rfl
      | some found =>
          show some (_, _) = some (_, i + byteLength (c :: cs.take found.2))
          rw [byteLength, Nat.add_assoc]

/-- A text is read between its quotes. -/
theorem string_between (before : List Char) {quote : Char} (hquote : quote.toNat < 128)
    (cs : List Char) :
    (between before (quote :: cs)).string quote = moved before quote cs
      (match readText quote cs with
        | some (text, n) => .ok ⟨.str (String.ofList text), n⟩
        | none => .error .openText) := by
  unfold string
  rw [advance_succ hquote, advance_zero]
  dsimp only
  rw [sliceToEnd_between]
  show (match closing quote 0 cs with | some (text, n) => _ | none => _) = _
  rw [closing_eq hquote]
  cases readText quote cs with
  | none => rfl
  | some found =>
      obtain ⟨text, n⟩ := found
      have hmove := advance_byteLength (before ++ [quote]) (cs.take n) (cs.drop n)
      rw [List.take_append_drop, List.append_assoc, List.singleton_append] at hmove
      show Except.ok (_, (between (before ++ [quote]) cs).advance (0 + byteLength (cs.take n))) = _
      rw [Nat.zero_add, hmove]
      rfl

/-- A word is taken out whole. -/
theorem word_between (before : List Char) (h : isNameStart c = true) (cs : List Char) :
    (between before (c :: cs)).word = moved before c cs (.ok (scanWord c cs)) := by
  have htake : (c :: cs).takeWhile isNameChar = c :: cs.takeWhile isNameChar :=
    List.takeWhile_cons_of_pos (isNameChar_of_isNameStart h)
  have htext : c :: cs = (c :: cs.takeWhile isNameChar) ++ (c :: cs).dropWhile isNameChar := by
    rw [← htake, List.takeWhile_append_dropWhile]
  have hslice := slice_between before (c :: cs.takeWhile isNameChar)
    ((c :: cs).dropWhile isNameChar)
  rw [← htext] at hslice
  unfold word
  rw [skipWhile_between isAscii_isNameChar, htake]
  dsimp only
  rw [hslice]
  exact (moved_ok htext (List.cons_ne_nil _ _) _).symm

/-- The character that begins no token is taken out whole, however many bytes it has. -/
theorem stray_between (before : List Char) (c : Char) (cs : List Char) :
    (between before (c :: cs)).stray = moved before c cs (.error (.strayCharacter c)) := by
  rw [stray, sliceToEnd_between]
  rfl

/-- No token begins with a character that is not ASCII. -/
theorem of_not_ascii {c : Char} (hc : 128 ≤ c.toNat) :
    singleSymbol? c = none ∧ extensibleSymbol? c = none ∧ twinSymbol? c = none ∧
      ¬ (c = '"' ∨ c = '\'') ∧ c.isDigit = false ∧ c ≠ '.' ∧ isNameStart c = false := by
  have hne : ∀ d : Char, d.toNat < 128 → c ≠ d := by
    rintro d hd rfl
    omega
  refine ⟨?_, ?_, ?_, ?_, isAscii_isDigit.eq_false hc, hne '.' (by decide),
    isAscii_isNameStart.eq_false hc⟩
  · unfold singleSymbol?
    split <;> first | rfl | exact absurd rfl (hne _ (by decide))
  · unfold extensibleSymbol?
    split <;> first | rfl | exact absurd rfl (hne _ (by decide))
  · unfold twinSymbol?
    split <;> first | rfl | exact absurd rfl (hne _ (by decide))
  · rintro (h | h)
    · exact hne '"' (by decide) h
    · exact hne '\'' (by decide) h

/-- A symbol that another character extends is extended by an ASCII character. -/
theorem toNat_of_extensibleSymbol? {c next : Char} {one two : Symbol}
    (h : extensibleSymbol? c = some (one, next, two)) : next.toNat < 128 := by
  unfold extensibleSymbol? at h
  split at h
  case h_6 => cases h
  all_goals
    cases h
    decide

/-- A symbol of one character leaves the cursor behind it. -/
theorem advance_one (hc : c.toNat < 128) :
    (between before (c :: cs)).advance 1 = between (before ++ [c]) cs :=
  advance_succ hc 0

/-- A second character that is next belongs to the token. -/
theorem advance_two (hc : c.toNat < 128) {next : Char} (hnext : next.toNat < 128)
    (h : cs.head? = some next) :
    (between before (c :: cs)).advance 2 = between (before ++ c :: cs.take 1) (cs.drop 1) := by
  obtain ⟨rest, rfl⟩ := List.head?_eq_some_iff.mp h
  rw [advance_succ hc, advance_one hnext, List.append_assoc]
  rfl

/-- The byte that a cursor sees is the next character, or neither is ASCII. -/
theorem cases_peek_zero {d : Char} (h : (between before (c :: cs)).peek 0 = some d) :
    c.toNat < 128 ∧ d = c ∨ 128 ≤ c.toNat ∧ 128 ≤ d.toNat := by
  rw [peek, ahead_between] at h
  by_cases hc : c.toNat < 128
  · rw [letters_cons hc] at h
    exact .inl ⟨hc, (Option.some.inj h).symm⟩
  · obtain ⟨e, es, hletters, he⟩ := exists_letters_cons (Nat.le_of_not_lt hc) cs
    rw [hletters] at h
    obtain rfl := Option.some.inj h
    exact .inr ⟨Nat.le_of_not_lt hc, he⟩

/-- A symbol is extended by a byte if it is by a character. -/
theorem extensible_between (hc : c.toNat < 128) {next : Char} (hnext : next.toNat < 128)
    (one two : Symbol) :
    (.ok (if (between before (c :: cs)).peek 1 = some next
      then (.symbol two, (between before (c :: cs)).advance 2)
      else (.symbol one, (between before (c :: cs)).advance 1)) : Except Stop (Token × Cursor)) =
      moved before c cs
        (.ok (if cs.head? = some next then ⟨.symbol two, 1⟩ else ⟨.symbol one, 0⟩)) := by
  have hsees : (between before (c :: cs)).peek 1 = some next ↔ cs.head? = some next := by
    rw [peek_succ hc, peek_zero_eq_some_iff hnext]
  by_cases hhead : cs.head? = some next
  · rw [if_pos (hsees.mpr hhead), if_pos hhead, advance_two hc hnext hhead]
    rfl
  · rw [if_neg fun h => hhead (hsees.mp h), if_neg hhead, advance_one hc]
    rfl

/-- A symbol is written twice in bytes if it is in characters. -/
theorem twin_between (hc : c.toNat < 128) (s : Symbol) :
    (if (between before (c :: cs)).peek 1 = some c
      then .ok (.symbol s, (between before (c :: cs)).advance 2)
      else .error (.fault (.halfOperator (String.ofList [c, c])) (byteLength before)) :
        Except Stop (Token × Cursor)) =
      moved before c cs
        (if cs.head? = some c then .ok ⟨.symbol s, 1⟩
        else .error (.halfOperator (String.ofList [c, c]))) := by
  have hsees : (between before (c :: cs)).peek 1 = some c ↔ cs.head? = some c := by
    rw [peek_succ hc, peek_zero_eq_some_iff hc]
  by_cases hhead : cs.head? = some c
  · rw [if_pos (hsees.mpr hhead), if_pos hhead, advance_two hc hc hhead]
    rfl
  · rw [if_neg fun h => hhead (hsees.mp h), if_neg hhead]
    rfl

/-- **A token is read by bytes as it is read by characters.** -/
theorem token_between {d : Char} (h : (between before (c :: cs)).peek 0 = some d) :
    (between before (c :: cs)).token d = moved before c cs (scan c cs) := by
  rcases cases_peek_zero h with ⟨hc, heq⟩ | ⟨hc, hd⟩
  · rw [heq]
    have hdigit : ((between before (c :: cs)).peek 1).any Char.isDigit =
        cs.head?.any Char.isDigit := by
      rw [peek_succ hc, any_peek_zero isAscii_isDigit]
    unfold token scan
    cases singleSymbol? c with
    | some s =>
        dsimp only
        rw [advance_one hc]
        rfl
    | none =>
      cases hextensible : extensibleSymbol? c with
      | some found =>
          exact extensible_between hc (toNat_of_extensibleSymbol? hextensible) found.1 found.2.2
      | none =>
        cases twinSymbol? c with
        | some s => exact twin_between hc s
        | none =>
            dsimp only
            rw [hdigit]
            split_ifs with hquote hnumber hpoint hnext hstart
            · have hstring := string_between before hc cs
              cases hread : readText c cs with
              | none => exact hstring.trans (by rw [hread])
              | some found => exact hstring.trans (by rw [hread])
            · exact number_between before (.inl hnumber)
            · exact number_between before (.inr ⟨hpoint, hnext⟩)
            · rw [advance_one hc]
              rfl
            · exact word_between before hstart cs
            · exact stray_between before c cs
  · obtain ⟨hsingle, hextensible, htwin, hquote, hdigit, hpoint, hstart⟩ := of_not_ascii hc
    obtain ⟨hsingle', hextensible', htwin', hquote', hdigit', hpoint', hstart'⟩ := of_not_ascii hd
    unfold token scan
    simp only [hsingle, hextensible, htwin, if_neg hquote, hdigit, if_neg hpoint, hstart,
      hsingle', hextensible', htwin', if_neg hquote', hdigit', if_neg hpoint', hstart',
      Bool.false_eq_true, if_false]
    exact stray_between before c cs

/-! ## §6. Whole texts. -/

/-- Something is next unless the text is at its end. -/
theorem exists_peek_zero (before : List Char) (c : Char) (cs : List Char) :
    ∃ d, (between before (c :: cs)).peek 0 = some d ∧ isSeparator d = isSeparator c := by
  have hany : ((between before (c :: cs)).peek 0).any isSeparator = isSeparator c :=
    any_peek_zero isAscii_isSeparator
  cases hpeek : (between before (c :: cs)).peek 0 with
  | some d =>
      rw [hpeek] at hany
      exact ⟨d, rfl, hany⟩
  | none =>
      -- The text has a byte for its first character at least.
      rw [peek, ahead_between, List.getElem?_eq_none_iff, letters, List.length_map, length_utf8,
        byteLength] at hpeek
      exact absurd hpeek (by have := c.utf8Size_pos; omega)

/-- **A text is read by bytes as it is read by characters**, with a turn for each byte at most. -/
theorem turns_between :
    ∀ (after before : List Char) (fuel : Nat), byteLength after ≤ fuel →
      ∃ r : Except (SyntaxFault × Nat) (List Located × Nat),
        (between before after).turns fuel = some (r.mapError fun e => .fault e.1 e.2) ∧
          lexFrom (byteLength before) after = r.mapError fun e => .malformed e.1 e.2
  | [], before, fuel, _ => by
      have hend : (between before []).peek 0 = none := by
        rw [peek, ahead_between]
        rfl
      refine ⟨.ok ([], byteLength before), ?_, by rw [lexFrom]; rfl⟩
      rw [turns.eq_def, hend]
      rfl
  | c :: cs, before, fuel, hfuel => by
      obtain ⟨d, hpeek, hseparator⟩ := exists_peek_zero before c cs
      have hbytes : byteLength (c :: cs) = c.utf8Size + byteLength cs := rfl
      have hpositive := c.utf8Size_pos
      obtain ⟨n, rfl⟩ : ∃ n, fuel = n + 1 := ⟨fuel - 1, by omega⟩
      rw [turns.eq_def, hpeek, lexFrom]
      dsimp only
      rw [hseparator]
      by_cases hgap : isSeparator c = true
      · have hone := utf8Size_of_isSeparator hgap
        have hbefore : byteLength (before ++ [c]) = byteLength before + 1 := by
          rw [byteLength_append, byteLength, hone]
          rfl
        obtain ⟨r, hturns, hlex⟩ := turns_between cs (before ++ [c]) n (by omega)
        rw [hbefore] at hlex
        rw [if_pos hgap, if_pos hgap, advance_one (isAscii_isSeparator c hgap)]
        exact ⟨r, hturns, hlex⟩
      · rw [if_neg hgap, if_neg hgap, token_between hpeek]
        cases scan c cs with
        | error f => exact ⟨.error (f, byteLength before), rfl, rfl⟩
        | ok s =>
            have hsplit : c :: cs = (c :: cs.take s.extra) ++ cs.drop s.extra := by
              rw [List.cons_append, List.take_append_drop]
            have hless : byteLength (cs.drop s.extra) ≤ n := by
              rw [hsplit, byteLength_append, byteLength] at hfuel
              omega
            obtain ⟨r, hturns, hlex⟩ :=
              turns_between (cs.drop s.extra) (before ++ c :: cs.take s.extra) n hless
            rw [byteLength_append] at hlex
            show ∃ r, ((between _ _).turns n).map _ = _ ∧ _
            rw [hturns]
            dsimp only
            rw [hlex]
            cases r with
            | error e => exact ⟨.error e, rfl, rfl⟩
            | ok found => exact ⟨.ok (⟨s.token, byteLength before⟩ :: found.1, found.2), rfl, rfl⟩
termination_by after => after.length
decreasing_by
  · simp
  · simp only [List.length_drop, List.length_cons]; omega

end Cursor

/-- **A text is read to its end or to a fault**, within a turn for each byte: it is never cut
inside a character, and no number is refused but an integer that is too large. -/
theorem exists_lexWithin (cs : List Char) :
    ∃ r : Except (SyntaxFault × Nat) Tokens,
      lexWithin (byteLength cs) cs = some (r.mapError fun e => .fault e.1 e.2) ∧
        lex cs = r.mapError fun e => .malformed e.1 e.2 := by
  obtain ⟨r, hturns, hlex⟩ := Cursor.turns_between cs [] (byteLength cs) (Nat.le_refl _)
  have hstart : Cursor.between [] cs = ⟨cs, 0⟩ := rfl
  have hbegin : byteLength [] = 0 := rfl
  rw [hstart] at hturns
  rw [hbegin] at hlex
  unfold lexWithin lex
  rw [hturns, hlex]
  match r with
  | .error e => exact ⟨.error e, rfl, rfl⟩
  | .ok ([], _) => exact ⟨.error (.empty, 0), rfl, rfl⟩
  | .ok (item :: items, stop) => exact ⟨.ok ⟨item :: items, stop⟩, rfl, rfl⟩

/-- A text with a character of two bytes, and then another one that begins no token. -/
example : lexWithin 8 "'é' §".toList = some (.error (.fault (.strayCharacter '§') 5)) := by
  rfl

end Fanout.Expr
