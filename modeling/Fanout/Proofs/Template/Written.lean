/-
  Fanout.Proofs.Template.Written
  ──────────────────────────────
  **Templates as they are written.**

  A template is written from *parts*: texts, in which every dollar sign is
  doubled, and names behind a dollar sign, with or without braces.  A name
  without braces must not run into a text behind it (`Separated`).

    • `Fills` — what the pieces of a text become, wherever they stand,
    • `fills_written` — separated parts become what they show,
    • `exists_of_fillAll` — whatever can be filled is written from such parts,
    • `substitute_eq_ok_iff` — both for whole templates.
-/
import Fanout.Proofs.Template.Scan

namespace Fanout.Template

open Fanout.Text Fanout.Expr

/-! ## §1. Parts. -/

/-- A part of a template. -/
inductive Part where
  /-- A text that is shown as it is. -/
  | literal (text : List Char)
  /-- A name whose value is shown, in braces or not. -/
  | reference (braced : Bool) (name : String) (isName : isName name.toList = true)

/-- A character of a text in a template. -/
def doubled (c : Char) : List Char := if c = '$' then ['$', '$'] else [c]

/-- A part as it is written. -/
def Part.source : Part → List Char
  | .literal text => text.flatMap doubled
  | .reference false name _ => '$' :: name.toList
  | .reference true name _ => '$' :: '\x7b' :: (name.toList ++ ['\x7d'])

/-- Parts as they are written one behind the other. -/
def written (parts : List Part) : List Char := parts.flatMap Part.source

/-- Do the parts begin with a text that begins with a character of names?  An empty text has no
characters, so that what is behind it counts. -/
def continueName : List Part → Bool
  | .literal [] :: rest => continueName rest
  | .literal (c :: _) :: _ => isNameChar c
  | _ => false

/-- No name without braces is directly followed by text that would make it longer. -/
def Separated : List Part → Prop
  | [] => True
  | .reference false _ _ :: rest => continueName rest = false ∧ Separated rest
  | _ :: rest => Separated rest

/-- What a part shows, if its name has a value. -/
def Part.shown? (b : Bindings) : Part → Option (List Char)
  | .literal text => some text
  | .reference _ name _ => (b.get? name).map fun v => v.text.toList

/-- What parts show one behind the other, if all their names have values. -/
def shown? (b : Bindings) : List Part → Option (List Char)
  | [] => some []
  | p :: parts => do
    let text ← p.shown? b
    let more ← shown? b parts
    some (text ++ more)

/-! ## §2. Filling piece by piece. -/

variable {b : Bindings} {cs out : List Char}

/-- The pieces of a text become `out`, wherever the text stands. -/
def Fills (b : Bindings) (cs out : List Char) : Prop :=
  ∀ place, fillAll b (pieces place cs) = .ok out

/-- A text begins with the piece that it is seen to begin with. -/
theorem firstPiece_of_begins {c : Char} {piece : Piece} {rest : List Char}
    (h : Begins (c :: cs) piece rest) (hp : piece ≠ .stray) : firstPiece c cs = piece := by
  cases h with
  | plain plain => exact if_neg plain
  | dollar => rfl
  | @named name rest isName ends =>
      have hlead : leadingName? (name ++ rest) = some name :=
        leadingName?_eq_some_iff.mpr ⟨rest, rfl, isName, ends⟩
      unfold firstPiece
      rw [if_pos rfl]
      unfold dollarPiece
      split
      · rename_i h
        exact absurd h.symm (ne_cons_of_isName isName (by decide) _)
      · rename_i h
        exact absurd h.symm (ne_cons_of_isName isName (by decide) _)
      · rw [hlead]
  | @braced name rest isName =>
      have hlead : leadingBracedName? (name ++ '\x7d' :: rest) = some name :=
        leadingBracedName?_eq_some_iff.mpr ⟨rest, rfl, isName⟩
      show dollarPiece ('\x7b' :: (name ++ '\x7d' :: rest)) = _
      simp only [dollarPiece, hlead]
  | stray _ _ _ => exact absurd rfl hp

/-- The first piece is filled, and then what is behind it. -/
theorem fills_of_begins {piece : Piece} {rest text : List Char} (h : Begins cs piece rest)
    (hp : ∀ place, piece.fill b place = .ok text) (hr : Fills b rest out) :
    Fills b cs (text ++ out) := by
  intro place
  have hstray : piece ≠ .stray := by
    intro he
    rw [he] at hp
    cases hp place
  cases cs with
  | nil => cases h
  | cons c cs =>
      have hfirst := firstPiece_of_begins h hstray
      -- both are what is left of the text without the characters of the piece
      have hrest : cs.drop (piece.source.length - 1) = rest := by
        have hbegins := begins_firstPiece c cs
        rw [hfirst] at hbegins
        exact List.append_cancel_left (hbegins.eq_append.symm.trans h.eq_append)
      rw [pieces, hfirst, hrest, fillAll, hp place]
      show (fillAll b _).map _ = _
      rw [hr]
      rfl

theorem fills_nil : Fills b [] [] := by
  intro place
  rw [pieces]
  rfl

/-- A character of a text is shown as it is. -/
theorem fills_doubled (c : Char) (h : Fills b cs out) : Fills b (doubled c ++ cs) (c :: out) := by
  by_cases hc : c = '$'
  · rw [doubled, if_pos hc, hc]
    exact fills_of_begins .dollar (fun _ => rfl) h
  · rw [doubled, if_neg hc]
    exact fills_of_begins (.plain hc) (fun _ => rfl) h

theorem fills_literal (text : List Char) (h : Fills b cs out) :
    Fills b (text.flatMap doubled ++ cs) (text ++ out) := by
  induction text with
  | nil => exact h
  | cons c text ih =>
      rw [List.flatMap_cons, List.append_assoc]
      exact fills_doubled c ih

/-- A reference to a name is filled with the text of its value. -/
theorem fill_reference {braced : Bool} {name : String} {v : Value} (h : b.get? name = some v)
    (place : Place) :
    (Piece.reference braced name.toList).fill b place = .ok v.text.toList := by
  simp only [Piece.fill, String.ofList_toList, h]

theorem fills_named {name : String} (hname : isName name.toList = true) {v : Value}
    (hv : b.get? name = some v) (hends : EndsName cs) (h : Fills b cs out) :
    Fills b ('$' :: (name.toList ++ cs)) (v.text.toList ++ out) :=
  fills_of_begins (.named hname hends) (fill_reference hv) h

theorem fills_braced {name : String} (hname : isName name.toList = true) {v : Value}
    (hv : b.get? name = some v) (h : Fills b cs out) :
    Fills b ('$' :: '\x7b' :: (name.toList ++ '\x7d' :: cs)) (v.text.toList ++ out) :=
  fills_of_begins (.braced hname) (fill_reference hv) h

/-! ## §3. Filling parts. -/

/-- A name ends before parts that do not make it longer, and before no others. -/
theorem endsName_written_iff (parts : List Part) :
    EndsName (written parts) ↔ continueName parts = false := by
  have hdollar : ∀ cs, EndsName ('$' :: cs) := by
    intro cs c hc
    obtain rfl : '$' = c := Option.some.inj hc
    decide
  fun_induction continueName parts with
  | case1 rest ih => exact ih
  | case2 c text rest =>
      by_cases hc : c = '$'
      · subst hc
        exact iff_of_true (hdollar _) (by decide)
      · have hwritten : written (.literal (c :: text) :: rest) =
            c :: (text.flatMap doubled ++ written rest) := by
          simp [written, Part.source, doubled, hc]
        rw [hwritten]
        constructor
        · intro h
          exact h c rfl
        · intro h d hd
          obtain rfl : c = d := Option.some.inj hd
          exact h
  | case3 parts hnil hcons =>
      refine iff_of_true ?_ rfl
      match parts with
      | [] =>
          intro c hc
          cases hc
      | .literal [] :: rest => exact absurd rfl (hnil rest)
      | .literal (c :: text) :: rest => exact absurd rfl (hcons c text rest)
      | .reference false _ _ :: _ => exact hdollar _
      | .reference true _ _ :: _ => exact hdollar _

/-- **Separated parts become what they show.** -/
theorem fills_written :
    ∀ {parts : List Part} {out : List Char}, Separated parts → shown? b parts = some out →
      Fills b (written parts) out
  | [], out, _, h => by
      obtain rfl := Option.some.inj h
      exact fills_nil
  | p :: parts, out, hseparated, h => by
      obtain ⟨text, htext, more, hmore, rfl⟩ :
          ∃ text, p.shown? b = some text ∧ ∃ more, shown? b parts = some more ∧
            text ++ more = out := by
        simpa [shown?, Option.bind_eq_some_iff] using h
      match p with
      | .literal t =>
          obtain rfl := Option.some.inj htext
          exact fills_literal t (fills_written hseparated hmore)
      | .reference braced name hname =>
          obtain ⟨v, hv, rfl⟩ := Option.map_eq_some_iff.mp htext
          cases braced with
          | false =>
              have hends := (endsName_written_iff parts).mpr hseparated.1
              exact fills_named hname hv hends (fills_written hseparated.2 hmore)
          | true =>
              have hparts : Fills b (written parts) more := fills_written hseparated hmore
              have hbraced := fills_braced hname hv hparts
              show Fills b ('$' :: '\x7b' :: (name.toList ++ ['\x7d'] ++ written parts)) _
              rw [List.append_assoc]
              exact hbraced

/-- A piece that can be filled is a part as it is written, and the part may stand there. -/
theorem exists_part_of_begins {piece : Piece} {place : Place} {text : List Char}
    {parts : List Part} (h : Begins cs piece (written parts)) (hparts : Separated parts)
    (hfill : piece.fill b place = .ok text) :
    ∃ p, Separated (p :: parts) ∧ p.source = piece.source ∧ p.shown? b = some text := by
  -- A name that is filled is shown as the text of its value.
  have hvalue : ∀ {braced name}, (Piece.reference braced name).fill b place = .ok text →
      (b.get? (String.ofList name)).map (fun v => v.text.toList) = some text := by
    intro braced name h
    unfold Piece.fill at h
    dsimp only at h
    split at h
    · rename_i v hv
      rw [hv]
      exact congrArg some (Except.ok.inj h)
    · cases h
  generalize hrest : written parts = rest at h
  cases h with
  | @plain c rest plain =>
      obtain rfl := Except.ok.inj hfill
      exact ⟨.literal [c], hparts, by simp [Part.source, Piece.source, doubled, plain], rfl⟩
  | dollar =>
      obtain rfl := Except.ok.inj hfill
      exact ⟨.literal ['$'], hparts, rfl, rfl⟩
  | @named name rest hname hends =>
      subst hrest
      refine ⟨.reference false (String.ofList name) (by rw [String.toList_ofList]; exact hname),
        ⟨(endsName_written_iff parts).mp hends, hparts⟩, ?_, hvalue hfill⟩
      simp [Part.source, Piece.source]
  | @braced name rest hname =>
      refine ⟨.reference true (String.ofList name) (by rw [String.toList_ofList]; exact hname),
        hparts, ?_, hvalue hfill⟩
      simp [Part.source, Piece.source]
  | stray _ _ _ => cases hfill

/-- **Whatever can be filled is written from separated parts.** -/
theorem exists_of_fillAll (place : Place) (cs : List Char) : ∀ {out : List Char},
    fillAll b (pieces place cs) = .ok out →
      ∃ parts, Separated parts ∧ cs = written parts ∧ shown? b parts = some out := by
  -- Every piece is a part: a character is a text of its own.
  fun_induction pieces place cs with
  | case1 place =>
      intro out h
      obtain rfl := Except.ok.inj h
      exact ⟨[], trivial, rfl, rfl⟩
  | case2 place c cs piece =>
      rename_i ih
      intro out h
      have hbegins : Begins (c :: cs) piece (cs.drop (piece.source.length - 1)) :=
        begins_firstPiece c cs
      rw [fillAll] at h
      cases hfill : piece.fill b place with
      | error e =>
          rw [hfill] at h
          cases h
      | ok text =>
          rw [hfill] at h
          obtain ⟨more, hmore, rfl⟩ := exists_of_map_eq_ok h
          obtain ⟨parts, hparts, hrest, hshown⟩ := ih hmore
          have hsource := hbegins.eq_append
          rw [hrest] at hbegins hsource
          obtain ⟨p, hp, hpsource, hpshown⟩ := exists_part_of_begins hbegins hparts hfill
          refine ⟨p :: parts, hp, ?_, ?_⟩
          · rw [hsource, ← hpsource]
            rfl
          · rw [shown?, hpshown, hshown]
            rfl

/-! ## §4. Whole templates. -/

/-- A dollar sign and a name in braces become the text of the value of the name. -/
theorem substitute_braced {name : String} (h : isName name.toList = true) (firstLine : Nat)
    {v : Value} (hv : b.get? name = some v) :
    substitute ("$\x7b" ++ name ++ "\x7d") firstLine b = .ok v.text := by
  have hchars : ("$\x7b" ++ name ++ "\x7d").toList =
      '$' :: '\x7b' :: (name.toList ++ ['\x7d']) := by
    rw [String.toList_append, String.toList_append]
    rfl
  have hfills := fills_braced h hv fills_nil ⟨firstLine, 1⟩
  unfold substitute
  rw [hchars, hfills, List.append_nil]
  exact congrArg Except.ok String.ofList_toList

/-- **Filling a template undoes the writing of it.**  It succeeds exactly on what is written
from separated parts whose names all have values, and then gives what the parts show one behind
the other. -/
theorem substitute_eq_ok_iff {template out : String} {firstLine : Nat} :
    substitute template firstLine b = .ok out ↔
      ∃ parts, Separated parts ∧ template.toList = written parts
        ∧ shown? b parts = some out.toList := by
  unfold substitute
  constructor
  · intro h
    obtain ⟨filled, hfilled, rfl⟩ := exists_of_map_eq_ok h
    rw [String.toList_ofList]
    exact exists_of_fillAll ⟨firstLine, 1⟩ template.toList hfilled
  · intro h
    obtain ⟨parts, hparts, hwritten, hshown⟩ := h
    rw [hwritten, fills_written hparts hshown ⟨firstLine, 1⟩]
    exact congrArg Except.ok String.ofList_toList

end Fanout.Template
