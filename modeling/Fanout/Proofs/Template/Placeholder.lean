/-
  Fanout.Proofs.Template.Placeholder
  ──────────────────────────────────
  **A name behind a dollar sign.**

  A dollar sign and a name make one piece, and the piece becomes the text
  of what is bound to the name.
-/
import Mathlib.Data.List.TakeWhile
import Fanout.Template.Placeholder

namespace Fanout.Template

open Fanout.Text Fanout.Expr

/-! ## §1. Names. -/

theorem isNameChar_of_isNameStart {c : Char} (h : isNameStart c = true) : isNameChar c = true := by
  unfold isNameStart at h
  unfold isNameChar Char.isAlphanum
  rw [Bool.or_eq_true] at h ⊢
  rcases h with h | h
  · exact .inl (by rw [h]; rfl)
  · exact .inr h

/-- A name is made of the characters of names. -/
theorem isNameChar_of_mem {name : List Char} (h : isName name = true) :
    ∀ c ∈ name, isNameChar c = true := by
  cases name with
  | nil => cases h
  | cons c cs =>
      rw [isName, Bool.and_eq_true, List.all_eq_true] at h
      intro d hd
      rcases List.mem_cons.mp hd with rfl | hd
      · exact isNameChar_of_isNameStart h.1
      · exact h.2 d hd

/-- A name begins with itself. -/
theorem leadingName?_of_isName {name : List Char} (h : isName name = true) :
    leadingName? name = some name := by
  have hall : name.takeWhile isNameChar = name :=
    List.takeWhile_eq_self_iff.mpr (isNameChar_of_mem h)
  simp only [leadingName?, hall, h, if_true]

/-! ## §2. Pieces. -/

/-- A dollar sign before a name begins a reference to it. -/
theorem dollarPiece_of_isName {name : List Char} (h : isName name = true) :
    dollarPiece name = .reference false name := by
  unfold dollarPiece
  split
  · exact absurd h (by simp [isName, isNameStart])
  · exact absurd h (by simp [isName, isNameStart])
  · rw [leadingName?_of_isName h]

/-- **A dollar sign and a name are one piece.** -/
theorem pieces_reference {name : List Char} (h : isName name = true) (place : Place) :
    pieces place ('$' :: name) = [(place, .reference false name)] := by
  rw [pieces]
  show (place, firstPiece '$' name) :: _ = _
  have hfirst : firstPiece '$' name = .reference false name := by
    unfold firstPiece
    rw [if_pos rfl, dollarPiece_of_isName h]
  rw [hfirst]
  have hrest : name.drop ((Piece.reference false name).source.length - 1) = [] := by
    simp [Piece.source]
  rw [hrest, pieces]

/-- **A dollar sign and a name become the text of the value of the name.** -/
theorem substitute_reference {name : String} (h : isName name.toList = true) (firstLine : Nat)
    {b : Bindings} {v : Value} (hv : b.get? name = some v) :
    substitute ("$" ++ name) firstLine b = .ok v.text := by
  have hchars : ("$" ++ name).toList = '$' :: name.toList := by
    rw [String.toList_append]
    rfl
  unfold substitute
  rw [hchars, pieces_reference h]
  simp [fillAll, Piece.fill, hv, Except.map]

end Fanout.Template
