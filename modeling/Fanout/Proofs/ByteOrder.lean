/-
  Fanout.Proofs.ByteOrder
  ───────────────────────
  **Texts in the order of their bytes.**

  Names are sorted by their characters.  The UTF-8 form keeps that order:
  a first byte tells how many bytes follow, more of them for greater
  characters, and characters with as many bytes differ first in a digit
  that is greater in the greater one.

    • `utf8EncodeChar_append_lt` — a smaller character has the smaller bytes,
      whatever follows,
    • `utf8_lt` — so has a smaller text.
-/
import Fanout.Text.Utf8

namespace Fanout.Text

/-- Two byte strings that begin with the bytes of numbers. -/
theorem ofNat_cons_lt_iff {a b : Nat} (ha : a < 256) (hb : b < 256) {xs ys : List UInt8} :
    UInt8.ofNat a :: xs < UInt8.ofNat b :: ys ↔ a < b ∨ a = b ∧ xs < ys := by
  have htoNat : ∀ n, n < 256 → (UInt8.ofNat n).toNat = n := fun n hn =>
    UInt8.toNat_ofNat_of_lt' hn
  rw [List.cons_lt_cons_iff, UInt8.lt_iff_toNat_lt, ← UInt8.toNat_inj, htoNat a ha, htoNat b hb]

/-- A smaller number has the smaller digits. -/
theorem digit_lt {v w : Nat} (h : v < w) : v / 64 < w / 64 ∨ v / 64 = w / 64 ∧ v % 64 < w % 64 := by
  omega

/-- **A smaller character has the smaller bytes**, whatever follows. -/
theorem utf8EncodeChar_append_lt {c d : Char} (h : c < d) (xs ys : List UInt8) :
    String.utf8EncodeChar c ++ xs < String.utf8EncodeChar d ++ ys := by
  have hlt : c.val.toNat < d.val.toNat := h
  have hd : d.val.toNat < 1114112 := by
    have hvalid := d.valid
    unfold UInt32.isValidChar Nat.isValidChar at hvalid
    omega
  unfold String.utf8EncodeChar
  dsimp only
  generalize c.val.toNat = v at hlt ⊢
  generalize d.val.toNat = w at hlt hd ⊢
  have hmod : ∀ n, n % 64 + 128 < 256 := fun n => by omega
  have htwo : ∀ n, n % 32 + 192 < 256 := fun n => by omega
  have hthree : ∀ n, n % 16 + 224 < 256 := fun n => by omega
  have hfour : ∀ n, n % 8 + 240 < 256 := fun n => by omega
  -- By the number of bytes of the greater character; the smaller one has no more.
  by_cases hone : w ≤ 127
  · have hv : v ≤ 127 := by omega
    rw [if_pos hv, if_pos hone]
    exact (ofNat_cons_lt_iff (by omega) (by omega)).mpr (.inl hlt)
  rw [if_neg hone]
  by_cases hw : w ≤ 2047
  · rw [if_pos hw]
    split
    · exact (ofNat_cons_lt_iff (by omega) (htwo _)).mpr (.inl (by omega))
    · have hv : v ≤ 2047 := by omega
      rw [if_pos hv]
      simp only [List.cons_append, List.nil_append, ofNat_cons_lt_iff (htwo _) (htwo _),
        ofNat_cons_lt_iff (hmod _) (hmod _)]
      omega
  rw [if_neg hw]
  by_cases hw' : w ≤ 65535
  · rw [if_pos hw']
    split
    · exact (ofNat_cons_lt_iff (by omega) (hthree _)).mpr (.inl (by omega))
    · split
      · exact (ofNat_cons_lt_iff (htwo _) (hthree _)).mpr (.inl (by omega))
      · have hv : v ≤ 65535 := by omega
        rw [if_pos hv]
        simp only [List.cons_append, List.nil_append, ofNat_cons_lt_iff (hthree _) (hthree _),
          ofNat_cons_lt_iff (hmod _) (hmod _)]
        omega
  rw [if_neg hw']
  split
  · exact (ofNat_cons_lt_iff (by omega) (hfour _)).mpr (.inl (by omega))
  · split
    · exact (ofNat_cons_lt_iff (htwo _) (hfour _)).mpr (.inl (by omega))
    · split
      · exact (ofNat_cons_lt_iff (hthree _) (hfour _)).mpr (.inl (by omega))
      · simp only [List.cons_append, List.nil_append, ofNat_cons_lt_iff (hfour _) (hfour _),
          ofNat_cons_lt_iff (hmod _) (hmod _)]
        -- Digit by digit from the last one.
        have hthird : ∀ n, n / 4096 = n / 64 / 64 := fun n => by omega
        have hfirst : ∀ n, n / 262144 = n / 64 / 64 / 64 := fun n => by omega
        rw [hthird v, hthird w, hfirst v, hfirst w]
        have hv' : v / 64 / 64 / 64 % 8 = v / 64 / 64 / 64 := Nat.mod_eq_of_lt (by omega)
        have hw' : w / 64 / 64 / 64 % 8 = w / 64 / 64 / 64 := Nat.mod_eq_of_lt (by omega)
        rw [hv', hw']
        rcases digit_lt hlt with hlt' | ⟨heq, hdigit⟩
        · rcases digit_lt hlt' with hlt'' | ⟨heq', hdigit⟩
          · have hup := digit_lt hlt''
            omega
          · rw [heq']
            omega
        · rw [heq]
          omega

/-- A character has a byte. -/
theorem utf8EncodeChar_ne_nil (c : Char) : String.utf8EncodeChar c ≠ [] := by
  intro h
  have hlength := congrArg List.length h
  rw [String.length_utf8EncodeChar] at hlength
  exact absurd hlength (Nat.ne_of_gt c.utf8Size_pos)

/-- **A smaller text has the smaller bytes.** -/
theorem utf8_lt (cs : List Char) : ∀ {ds : List Char}, cs < ds → utf8 cs < utf8 ds := by
  induction cs with
  | nil =>
      intro ds h
      cases ds with
      | nil => exact absurd h (List.not_lt_nil [])
      | cons d ds =>
          -- The bytes of the first character come before the end.
          have hne : utf8 (d :: ds) ≠ [] := by
            rw [utf8, List.flatMap_cons]
            exact List.append_ne_nil_of_left_ne_nil (utf8EncodeChar_ne_nil d) _
          obtain ⟨byte, bytes, hbytes⟩ := List.exists_cons_of_ne_nil hne
          rw [hbytes]
          exact List.nil_lt_cons byte bytes
  | cons c cs ih =>
      intro ds h
      cases ds with
      | nil => exact absurd h (List.not_lt_nil _)
      | cons d ds =>
          rw [utf8, utf8, List.flatMap_cons, List.flatMap_cons]
          rcases List.cons_lt_cons_iff.mp h with hfirst | ⟨rfl, hrest⟩
          · exact utf8EncodeChar_append_lt hfirst _ _
          · exact List.append_left_lt (ih hrest)

end Fanout.Text
