/-
  Fanout.Proofs.Number.Bits
  ─────────────────────────
  **Floats and their bits.**

  The bits of a number come back from the float that is made of them.  Only
  bits above those of infinity, which stand for no number, may be replaced.

    • `toBits_ofBits` — bits that come back,
    • `magnitudeBits_ofMagnitudeBits`, `isNegative_ofMagnitudeBits` — a float
      made of a sign and of bits below it has this sign and these bits,
    • `ofMagnitudeBits_magnitudeBits` — a number is made of its own,
    • `neg_ofMagnitudeBits` — the opposite of a number has the other sign.
-/
import Mathlib
import Fanout.Number.Binary64

namespace Fanout.Number

open Float.Model Float.Model.UnpackedFloat

theorem twoTo_52 : twoTo 52 = 4503599627370496 := rfl

theorem twoTo_63 : twoTo 63 = 9223372036854775808 := rfl

theorem infinityBits_eq : infinityBits = 9218868437227405312 := rfl

/-- Bits that are not above those of infinity stand for a number. -/
theorem isNaNBits_eq_false {w : UInt64} (h : w.toNat % twoTo 63 ≤ infinityBits) :
    @isNaNBits Format.binary64 w.toBitVec = false := by
  rw [isNaNBits, decide_eq_false_iff_not]
  rintro ⟨hexp, hman⟩
  rw [unpackExponent_def] at hexp
  rw [unpackMantissa_def] at hman
  have hexponent := congrArg BitVec.toNat hexp
  have hfraction : (w.toBitVec.extractLsb' 0 52).toNat ≠ 0 :=
    fun h0 => hman (BitVec.eq_of_toNat_eq h0)
  simp [BitVec.extractLsb'_toNat] at hexponent hfraction
  rw [twoTo_63, infinityBits_eq] at h
  omega

/-- What the bits of a number are taken apart to makes the same bits again. -/
theorem pack_unpack_of_number {w : UInt64} (h : w.toNat % twoTo 63 ≤ infinityBits) :
    UnpackedFloat.pack Format.binary64 (UnpackedFloat.unpack Format.binary64 w.toBitVec) =
      w.toBitVec := by
  have hpack := @pack_unpack Format.binary64 w.toBitVec
  rw [isNaNBits_eq_false h, if_neg (by decide)] at hpack
  exact hpack

/-- **The bits of a number come back.** -/
theorem toBits_ofBits {w : UInt64} (h : w.toNat % twoTo 63 ≤ infinityBits) :
    (Float.ofBits w).toBits = w := UInt64.toBitVec_inj.mp (pack_unpack_of_number h)

/-- The bits of a float made of a sign and of bits below it. -/
theorem bits_ofMagnitudeBits (negative : Bool) {k : Nat} (h : k ≤ infinityBits) :
    bits (ofMagnitudeBits negative k) = k + if negative then twoTo 63 else 0 := by
  rw [infinityBits_eq] at h
  have hword : (UInt64.ofNat (k + if negative then twoTo 63 else 0)).toNat =
      k + if negative then twoTo 63 else 0 := by
    rw [UInt64.toNat_ofNat', twoTo_63]
    split <;> omega
  unfold bits ofMagnitudeBits
  rw [toBits_ofBits, hword]
  rw [hword, twoTo_63, infinityBits_eq]
  split <;> omega

theorem magnitudeBits_ofMagnitudeBits (negative : Bool) {k : Nat} (h : k ≤ infinityBits) :
    magnitudeBits (ofMagnitudeBits negative k) = k := by
  unfold magnitudeBits
  rw [bits_ofMagnitudeBits negative h, twoTo_63]
  rw [infinityBits_eq] at h
  split <;> omega

theorem isNegative_ofMagnitudeBits (negative : Bool) {k : Nat} (h : k ≤ infinityBits) :
    isNegative (ofMagnitudeBits negative k) = negative := by
  unfold isNegative
  rw [bits_ofMagnitudeBits negative h, twoTo_63]
  rw [infinityBits_eq] at h
  cases negative with
  | false => exact decide_eq_false (by rw [if_neg (by decide)]; omega)
  | true => exact decide_eq_true (by rw [if_pos rfl]; omega)

theorem isNaN_ofMagnitudeBits (negative : Bool) {k : Nat} (h : k ≤ infinityBits) :
    isNaN (ofMagnitudeBits negative k) = false := by
  unfold isNaN
  rw [magnitudeBits_ofMagnitudeBits negative h, decide_eq_false_iff_not]
  omega

theorem magnitudeBits_le {x : Float} (h : isNaN x = false) : magnitudeBits x ≤ infinityBits := by
  unfold isNaN at h
  simpa using h

/-- A float is told by its bits. -/
theorem eq_of_toBits {x y : Float} (h : x.toBits = y.toBits) : x = y := by
  obtain ⟨⟨w, hw⟩⟩ := x
  obtain ⟨⟨v, hv⟩⟩ := y
  obtain rfl : w = v := h
  rfl

/-- **A number is made of its sign and of the bits below it.** -/
theorem ofMagnitudeBits_magnitudeBits {x : Float} (h : isNaN x = false) :
    ofMagnitudeBits (isNegative x) (magnitudeBits x) = x := by
  have hbits : (magnitudeBits x + if isNegative x then twoTo 63 else 0) = bits x := by
    have hlt : bits x < 18446744073709551616 := x.toBits.toNat_lt
    unfold magnitudeBits isNegative
    rw [twoTo_63]
    split
    next h =>
      have := of_decide_eq_true h
      omega
    next h =>
      have := of_decide_eq_false (Bool.not_eq_true _ ▸ h)
      omega
  have hword : UInt64.ofNat (bits x) = x.toBits := UInt64.ofNat_toNat
  unfold ofMagnitudeBits
  rw [hbits, hword]
  exact eq_of_toBits (toBits_ofBits (magnitudeBits_le h))

/-- Bits that differ in the sign only are taken apart to opposites. -/
theorem unpack_neg {v w : BitVec 64} (hsign : w.toNat = v.toNat + twoTo 63) :
    (UnpackedFloat.unpack Format.binary64 v).neg = UnpackedFloat.unpack Format.binary64 w := by
  have hlt := w.isLt
  rw [twoTo_63] at hsign
  have hmantissa : @unpackMantissa Format.binary64 w = @unpackMantissa Format.binary64 v := by
    rw [unpackMantissa_def, unpackMantissa_def]
    refine BitVec.eq_of_toNat_eq ?_
    simp only [BitVec.extractLsb'_toNat, Nat.shiftRight_zero]
    rw [hsign]
    show _ % 2 ^ 52 = _ % 2 ^ 52
    omega
  have hexponent : @unpackExponent Format.binary64 w = @unpackExponent Format.binary64 v := by
    rw [unpackExponent_def, unpackExponent_def]
    refine BitVec.eq_of_toNat_eq ?_
    simp only [BitVec.extractLsb'_toNat, Nat.shiftRight_eq_div_pow]
    rw [hsign]
    show _ / 2 ^ 52 % 2 ^ 11 = _ / 2 ^ 52 % 2 ^ 11
    omega
  have hv : @unpackSign Format.binary64 v = 0#1 := by
    rw [unpackSign_def]
    refine BitVec.eq_of_toNat_eq ?_
    simp only [BitVec.extractLsb'_toNat, Nat.shiftRight_eq_div_pow]
    show _ / 2 ^ 63 % 2 ^ 1 = 0
    omega
  have hw : @unpackSign Format.binary64 w = 1#1 := by
    rw [unpackSign_def]
    refine BitVec.eq_of_toNat_eq ?_
    simp only [BitVec.extractLsb'_toNat, Nat.shiftRight_eq_div_pow]
    show _ / 2 ^ 63 % 2 ^ 1 = 1
    omega
  unfold UnpackedFloat.unpack
  dsimp only
  simp only [hmantissa, hexponent, hv, hw]
  split
  · split <;> rfl
  · split
    · split <;> rfl
    · rfl

/-- **The opposite of a number has the other sign**, and the same bits below it. -/
theorem neg_ofMagnitudeBits {k : Nat} (h : k ≤ infinityBits) :
    -ofMagnitudeBits false k = ofMagnitudeBits true k := by
  have hplus := bits_ofMagnitudeBits false h
  have hminus := bits_ofMagnitudeBits true h
  have hnumber := (magnitudeBits_ofMagnitudeBits true h).le.trans h
  have hsign : (ofMagnitudeBits true k).toBits.toBitVec.toNat =
      (ofMagnitudeBits false k).toBits.toBitVec.toNat + twoTo 63 := by
    show bits _ = bits _ + _
    rw [hplus, hminus]
    rfl
  refine eq_of_toBits (UInt64.toBitVec_inj.mp ?_)
  show UnpackedFloat.pack Format.binary64
    (UnpackedFloat.unpack Format.binary64 (ofMagnitudeBits false k).toBits.toBitVec).neg = _
  rw [unpack_neg hsign]
  exact pack_unpack_of_number hnumber

end Fanout.Number
