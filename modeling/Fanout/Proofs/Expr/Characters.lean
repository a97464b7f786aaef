/-
  Fanout.Proofs.Expr.Characters
  ─────────────────────────────
  **Texts are sequences of characters.**

  Joining, repeating, measuring and indexing a text are what they are for
  the list of its characters.  Bytes only count where a repetition is
  refused because its result would be too long.

    • `toList_repeatText` — a repetition writes the characters again and
      again,
    • `HasLength` — the length of a text as an integer value,
    • `characterAt_of_place`, `characterAt_of_outside` — an index reaches a
      character from the start or from the end, or none,
    • `textLaws` — all of it for the operators and functions of expressions.
-/
import Fanout.Expr.Meaning
import Fanout.Proofs.Number.Word
import Fanout.Text.Utf8

namespace Fanout.Expr

open Fanout.Number Fanout.Text

variable {s : String} {i n : Int64}

/-! ## §1. Bytes and characters. -/

/-- Every character has at least one byte. -/
theorem length_le_byteLength (cs : List Char) : cs.length ≤ byteLength cs := by
  induction cs with
  | nil => exact Nat.le_refl 0
  | cons c cs ih =>
      have hc := c.utf8Size_pos
      rw [List.length_cons, byteLength]
      omega

theorem utf8ByteSize_ofList (cs : List Char) : (String.ofList cs).utf8ByteSize = byteLength cs := by
  induction cs with
  | nil => rfl
  | cons c cs ih =>
      rw [← List.singleton_append, String.ofList_append, String.utf8ByteSize_append, ih,
        ← String.singleton_eq_ofList, String.utf8ByteSize_singleton]
      rfl

/-- A text has no more characters than bytes. -/
theorem length_le_utf8ByteSize (s : String) : s.length ≤ s.utf8ByteSize := by
  have hbytes := utf8ByteSize_ofList s.toList
  rw [String.ofList_toList] at hbytes
  rw [hbytes, ← String.length_toList]
  exact length_le_byteLength s.toList

/-! ## §2. Repetition. -/

theorem toList_repeat (s : String) (k : Nat) :
    (Nat.repeat (fun acc => acc ++ s) k "").toList = (List.replicate k s.toList).flatten := by
  induction k with
  | zero => rfl
  | succ k ih =>
      rw [List.replicate_succ', List.flatten_append, ← ih, List.flatten_singleton]
      exact String.toList_append

/-- **A repetition writes the characters of a text again and again.** -/
theorem toList_repeatText (s : String) (k : Nat) :
    (repeatText s k).toList = (List.replicate k s.toList).flatten := by
  unfold repeatText
  split
  · next h =>
      rw [String.isEmpty_iff.mp h]
      simp
  · exact toList_repeat s k

theorem length_repeatText (s : String) (k : Nat) : (repeatText s k).length = k * s.length := by
  rw [← String.length_toList, toList_repeatText, List.length_flatten, List.map_replicate,
    List.sum_replicate_nat, String.length_toList]

/-- A repetition by a number that is not negative counts as often as the number says. -/
theorem tooLong_iff :
    ¬ s.utf8ByteSize * n.toInt.toNat ≤ maxTextLength ↔
      0 < n.toInt ∧ 2 ^ 26 < n.toInt * s.utf8ByteSize := by
  unfold maxTextLength
  rcases Int.le_total n.toInt 0 with hn | hn
  · have hzero : n.toInt.toNat = 0 := Int.toNat_of_nonpos hn
    rw [hzero, Nat.mul_zero]
    omega
  · obtain ⟨k, hk⟩ := Int.eq_ofNat_of_zero_le hn
    rw [hk, Int.toNat_natCast, Nat.not_le, Nat.mul_comm]
    constructor
    · intro h
      refine ⟨?_, by exact_mod_cast h⟩
      have hpos : 0 < k := Nat.pos_of_ne_zero fun h0 => by simp [h0] at h
      exact_mod_cast hpos
    · rintro ⟨-, h⟩
      exact_mod_cast h

/-- **A repetition is refused if its result has more than 2²⁶ bytes**, and otherwise written out. -/
theorem repetition_cases (s : String) (n : Int64) :
    (0 < n.toInt ∧ 2 ^ 26 < n.toInt * s.utf8ByteSize ∧
        repetition s n = .error (.overflow (.operator .mul))) ∨
      (¬ (0 < n.toInt ∧ 2 ^ 26 < n.toInt * s.utf8ByteSize) ∧
        repetition s n = .ok (.str (repeatText s n.toInt.toNat))) := by
  unfold repetition
  by_cases h : s.utf8ByteSize * n.toInt.toNat ≤ maxTextLength
  · exact .inr ⟨fun hlong => tooLong_iff.mpr hlong h, if_pos h⟩
  · obtain ⟨hpos, hlong⟩ := tooLong_iff.mp h
    exact .inl ⟨hpos, hlong, if_neg h⟩

/-! ## §3. Lengths. -/

/-- A text has the length `m`, as an integer value. -/
def HasLength (s : String) (m : Int) : Prop :=
  ∃ w : Int64, callBuiltin .len [.str s] = .ok (.int w) ∧ w.toInt = m

/-- Every text that an index of 64 bits reaches to the end of has its number of characters as its
length. -/
theorem hasLength_of_le {m : Int} (hm : m = s.length) (h : m ≤ maxWord) : HasLength s m := by
  subst hm
  unfold maxWord at h
  exact ⟨_, rfl, Int64.toInt_ofInt_of_le (by omega) (by omega)⟩

/-- What is not refused is never too long to have a length. -/
theorem hasLength_repeatText (h : ¬ (0 < n.toInt ∧ 2 ^ 26 < n.toInt * s.utf8ByteSize)) :
    HasLength (repeatText s n.toInt.toNat) (s.length * max n.toInt 0) := by
  have hbytes : s.utf8ByteSize * n.toInt.toNat ≤ maxTextLength :=
    not_not.mp fun hlong => h (tooLong_iff.mp hlong)
  have hchars : s.length * n.toInt.toNat ≤ s.utf8ByteSize * n.toInt.toNat :=
    Nat.mul_le_mul_right _ (length_le_utf8ByteSize s)
  have hmax : ((n.toInt.toNat : Nat) : Int) = max n.toInt 0 := Int.toNat_eq_max n.toInt
  refine hasLength_of_le ?_ ?_
  · rw [length_repeatText, ← hmax, Nat.mul_comm]
    push_cast
    rfl
  · rw [← hmax]
    unfold maxTextLength at hbytes
    unfold maxWord
    have hsmall : s.length * n.toInt.toNat ≤ 67108864 := hchars.trans hbytes
    exact le_trans (by exact_mod_cast hsmall) (by decide : (67108864 : Int) ≤ _)

/-! ## §4. Indices. -/

/-- The place that an index means in a text of so many characters. -/
def placeOf (length i : Int) : Int := if i < 0 then i + length else i

theorem characterAt_str (s : String) (i : Int64) :
    characterAt (.str s) (.int i) =
      if placeOf s.length i.toInt < 0 then .error .indexOutOfRange
      else
        match s.toList[(placeOf s.length i.toInt).toNat]? with
        | some c => .ok (.str c.toString)
        | none => .error .indexOutOfRange := rfl

/-- **An index counts from the start, or from the end if it is negative.** -/
theorem characterAt_of_place {k : Nat} {c : Char} (hc : s.toList[k]? = some c)
    (hi : i.toInt = k ∨ i.toInt = (k : Int) - s.length) :
    characterAt (.str s) (.int i) = .ok (.str c.toString) := by
  have hk : k < s.length := by
    rw [← String.length_toList]
    exact (List.getElem?_eq_some_iff.mp hc).1
  have hplace : placeOf s.length i.toInt = k := by
    unfold placeOf
    split <;> omega
  rw [characterAt_str, hplace, if_neg (by omega), Int.toNat_natCast, hc]

/-- **Any other index reaches no character.** -/
theorem characterAt_of_outside (h : ¬ (-(s.length : Int) ≤ i.toInt ∧ i.toInt < s.length)) :
    characterAt (.str s) (.int i) = .error .indexOutOfRange := by
  rw [characterAt_str]
  by_cases hneg : placeOf s.length i.toInt < 0
  · rw [if_pos hneg]
  · have hlong : s.toList.length ≤ (placeOf s.length i.toInt).toNat := by
      rw [String.length_toList]
      unfold placeOf at hneg ⊢
      split at hneg <;> omega
    rw [if_neg hneg, List.getElem?_eq_none hlong]

/-- The place of an index that lies in the text. -/
theorem exists_place (h : -(s.length : Int) ≤ i.toInt ∧ i.toInt < s.length) :
    ∃ (k : Nat) (c : Char), s.toList[k]? = some c ∧
      (i.toInt = k ∨ i.toInt = (k : Int) - s.length) := by
  have hk : (placeOf s.length i.toInt).toNat < s.toList.length := by
    rw [String.length_toList]
    unfold placeOf
    split <;> omega
  refine ⟨_, _, List.getElem?_eq_getElem hk, ?_⟩
  unfold placeOf
  split <;> omega

/-- **Indices of a joined text reach the characters of its parts.** -/
theorem characterAt_append (a b : String) (hi : 0 ≤ i.toInt) :
    (i.toInt < a.length → characterAt (.str (a ++ b)) (.int i) = characterAt (.str a) (.int i)) ∧
      ∀ j : Int64, j.toInt = i.toInt - a.length → 0 ≤ j.toInt → j.toInt < b.length →
        characterAt (.str (a ++ b)) (.int i) = characterAt (.str b) (.int j) := by
  constructor
  · intro hlt
    obtain ⟨k, c, hc, hk⟩ := exists_place (s := a) ⟨by omega, hlt⟩
    have hlength : k < a.toList.length := (List.getElem?_eq_some_iff.mp hc).1
    rw [String.length_toList] at hlength
    have hjoined : (a ++ b).toList[k]? = some c := by
      rw [String.toList_append, List.getElem?_append_left (by rwa [String.length_toList]), hc]
    rw [characterAt_of_place hc hk, characterAt_of_place hjoined (.inl (by omega))]
  · intro j hj hlow hhigh
    obtain ⟨k, c, hc, hk⟩ := exists_place (s := b) (i := j) ⟨by omega, hhigh⟩
    have hlength : k < b.toList.length := (List.getElem?_eq_some_iff.mp hc).1
    rw [String.length_toList] at hlength
    have hjoined : (a ++ b).toList[a.length + k]? = some c := by
      rw [String.toList_append, ← String.length_toList, List.getElem?_append_right (by omega),
        Nat.add_sub_cancel_left, hc]
    rw [characterAt_of_place hc hk, characterAt_of_place hjoined (.inl (by omega))]

/-! ## §5. The laws. -/

/-- What `+`, `*`, indices and `len` give for texts. -/
structure TextLaws (a b : String) (n i : Int64) : Prop where
  /-- `a + b` is one text behind the other. -/
  join : binaryOperation .add (.str a) (.str b) = .ok (.str (a ++ b))
  /-- Its length is the sum of the lengths. -/
  length_join : ∃ u v : Int64, callBuiltin .len [.str a] = .ok (.int u) ∧
    callBuiltin .len [.str b] = .ok (.int v) ∧
    callBuiltin .len [.str (a ++ b)] = .ok (.int (u + v))
  /-- These are the numbers of characters, if there are no more of them than integers. -/
  length_exact : (a.length + b.length : Int) ≤ 2 ^ 63 - 1 →
    HasLength a a.length ∧ HasLength b b.length ∧ HasLength (a ++ b) (a.length + b.length)
  /-- The number may stand on either side. -/
  repeat_comm : binaryOperation .mul (.int n) (.str a) = binaryOperation .mul (.str a) (.int n)
  /-- A repetition is refused exactly if it has more than 2²⁶ bytes. -/
  repeat_refused : binaryOperation .mul (.str a) (.int n) = .error (.overflow (.operator .mul)) ↔
    0 < n.toInt ∧ 2 ^ 26 < n.toInt * a.utf8ByteSize
  /-- Otherwise it is the text so many times in a row, not at all for a negative number. -/
  repeat_written : ¬ (0 < n.toInt ∧ 2 ^ 26 < n.toInt * a.utf8ByteSize) →
    ∃ r, binaryOperation .mul (.str a) (.int n) = .ok (.str r) ∧
      r.toList = (List.replicate n.toInt.toNat a.toList).flatten ∧
      HasLength r (a.length * max n.toInt 0)
  /-- An index reaches a character from the start or from the end. -/
  index_place : ∀ (k : Nat) (c : Char), a.toList[k]? = some c →
    i.toInt = k ∨ i.toInt = (k : Int) - a.length →
    characterAt (.str a) (.int i) = .ok (.str c.toString)
  /-- There is a character between the two ends. -/
  index_iff : (∃ v, characterAt (.str a) (.int i) = .ok v) ↔
    -(a.length : Int) ≤ i.toInt ∧ i.toInt < a.length
  /-- There is none beyond them. -/
  index_outside : ¬ (-(a.length : Int) ≤ i.toInt ∧ i.toInt < a.length) →
    characterAt (.str a) (.int i) = .error .indexOutOfRange
  /-- The first indices of a joined text are those of its first part. -/
  index_left : 0 ≤ i.toInt → i.toInt < a.length →
    characterAt (.str (a ++ b)) (.int i) = characterAt (.str a) (.int i)
  /-- The others are those of its second part. -/
  index_right : ∀ j : Int64, j.toInt = i.toInt - a.length → (a.length : Int) ≤ i.toInt →
    i.toInt < a.length + b.length →
    characterAt (.str (a ++ b)) (.int i) = characterAt (.str b) (.int j)

/-- **The operators of texts follow the sequence of characters**, whatever their sizes in bytes. -/
theorem textLaws (a b : String) (n i : Int64) : TextLaws a b n i := by
  constructor
  case join => rfl
  case length_join =>
    refine ⟨_, _, rfl, rfl, ?_⟩
    rw [← Int64.ofInt_add]
    show lengthOf (.str (a ++ b)) = _
    rw [lengthOf, String.length_append]
    push_cast
    rfl
  case length_exact =>
    intro h
    have hmax : maxWord = 2 ^ 63 - 1 := rfl
    refine ⟨hasLength_of_le rfl (by omega), hasLength_of_le rfl (by omega),
      hasLength_of_le ?_ (by omega)⟩
    rw [String.length_append]
    push_cast
    rfl
  case repeat_comm => rfl
  case repeat_refused =>
    show repetition a n = _ ↔ _
    rcases repetition_cases a n with ⟨hpos, hlong, heq⟩ | ⟨hnot, heq⟩
    · exact iff_of_true heq ⟨hpos, hlong⟩
    · refine iff_of_false (fun h => ?_) hnot
      rw [heq] at h
      cases h
  case repeat_written =>
    intro hnot
    rcases repetition_cases a n with ⟨hpos, hlong, -⟩ | ⟨-, heq⟩
    · exact absurd ⟨hpos, hlong⟩ hnot
    · exact ⟨_, heq, toList_repeatText a _, hasLength_repeatText hnot⟩
  case index_place => exact fun k c hc hi => characterAt_of_place hc hi
  case index_iff =>
    constructor
    · rintro ⟨v, hv⟩
      by_contra hout
      rw [characterAt_of_outside hout] at hv
      cases hv
    · intro hin
      obtain ⟨k, c, hc, hi⟩ := exists_place hin
      exact ⟨_, characterAt_of_place hc hi⟩
  case index_outside => exact characterAt_of_outside
  case index_left => exact fun hlow hhigh => (characterAt_append a b hlow).1 hhigh
  case index_right =>
    intro j hj hlow hhigh
    exact (characterAt_append a b (by omega)).2 j hj (by omega) (by omega)

end Fanout.Expr
