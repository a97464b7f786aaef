/-
  Fanout.Proofs.Template.Scan
  ───────────────────────────
  **The first dollar sign that cannot be filled.**

  A template is cut into pieces from left to right, and a failure is that
  of the first piece that cannot be filled.  Both sides of that piece are
  described without the cutting:

    • `Passed` — a text all of whose dollar signs can be filled,
    • `Offends` — a dollar sign that cannot, and why,
    • `begins_firstPiece` — every piece is as long as it can be,
    • `exists_of_substitute_error` — a failure has the one before the other.
-/
import Fanout.Proofs.Template.Placeholder
import Fanout.Proofs.Text

namespace Fanout.Template

open Fanout.Text Fanout.Expr

/-! ## §1. Dollar signs. -/

/-- No character of a name comes next. -/
def EndsName (rest : List Char) : Prop := ∀ c, rest.head? = some c → isNameChar c = false

/-- A text before a rest, all of whose dollar signs can be filled: each belongs to a doubled one
or to a name with a value, which ends before a character that no name has or stands in
braces. -/
inductive Passed (b : Bindings) : List Char → List Char → Prop where
  /-- There is nothing to fill. -/
  | nil (rest : List Char) : Passed b [] rest
  /-- A character that stands for itself. -/
  | plain {c : Char} {before rest : List Char} (plain : c ≠ '$') (behind : Passed b before rest) :
      Passed b (c :: before) rest
  /-- A doubled dollar sign. -/
  | dollar {before rest : List Char} (behind : Passed b before rest) :
      Passed b ('$' :: '$' :: before) rest
  /-- A name. -/
  | named {name before rest : List Char} {v : Value} (isName : isName name = true)
      (ends : EndsName (before ++ rest)) (value : b.get? (String.ofList name) = some v)
      (behind : Passed b before rest) : Passed b ('$' :: (name ++ before)) rest
  /-- A name in braces. -/
  | braced {name before rest : List Char} {v : Value} (isName : isName name = true)
      (value : b.get? (String.ofList name) = some v) (behind : Passed b before rest) :
      Passed b ('$' :: '\x7b' :: (name ++ '\x7d' :: before)) rest

/-- A dollar sign at a place that cannot be filled, and why. -/
inductive Offends (b : Bindings) (place : Place) : List Char → RenderError → Prop where
  /-- A name without a value. -/
  | named {name rest : List Char} (isName : isName name = true) (ends : EndsName rest)
      (unbound : b.get? (String.ofList name) = none) :
      Offends b place ('$' :: (name ++ rest)) (.undefinedName (String.ofList name) place)
  /-- A name without a value, in braces. -/
  | braced {name rest : List Char} (isName : isName name = true)
      (unbound : b.get? (String.ofList name) = none) :
      Offends b place ('$' :: '\x7b' :: (name ++ '\x7d' :: rest))
        (.undefinedName (String.ofList name) place)
  /-- Neither a dollar sign nor a name nor a name in braces. -/
  | invalid {rest : List Char} (noDollar : ∀ more, rest ≠ '$' :: more)
      (noName : ∀ name more, isName name = true → rest ≠ name ++ more)
      (noBraces : ∀ name more, isName name = true → rest ≠ '\x7b' :: (name ++ '\x7d' :: more)) :
      Offends b place ('$' :: rest) (.invalidPlaceholder place)

/-- What offends is a dollar sign. -/
theorem Offends.exists_cons {b : Bindings} {place : Place} {rest : List Char} {e : RenderError}
    (h : Offends b place rest e) : ∃ behind, rest = '$' :: behind := by
  cases h with
  | named isName ends unbound => exact ⟨_, rfl⟩
  | braced isName unbound => exact ⟨_, rfl⟩
  | invalid noDollar noName noBraces => exact ⟨_, rfl⟩

/-! ## §2. Names at the start of a text. -/

/-- **The name that a text begins with is as long as it can be.** -/
theorem leadingName?_eq_some_iff {cs name : List Char} :
    leadingName? cs = some name ↔
      ∃ rest, cs = name ++ rest ∧ isName name = true ∧ EndsName rest := by
  unfold leadingName?
  dsimp only
  constructor
  · intro h
    split at h
    · rename_i hname
      obtain rfl := Option.some.inj h
      refine ⟨cs.dropWhile isNameChar, List.takeWhile_append_dropWhile.symm, hname, ?_⟩
      intro c hc
      have hstop := List.head?_dropWhile_not isNameChar cs
      rw [hc] at hstop
      simpa using hstop
    · cases h
  · rintro ⟨rest, rfl, hname, hends⟩
    have htake := (takeWhile_append_of_stop (isNameChar_of_mem hname) hends).1
    rw [htake, if_pos hname]

/-- Where a text begins with a name, it begins with one that is as long as it can be. -/
theorem leadingName?_ne_none {name more : List Char} (hname : isName name = true) :
    leadingName? (name ++ more) ≠ none := by
  have htake : (name ++ more).takeWhile isNameChar = name ++ more.takeWhile isNameChar :=
    List.takeWhile_append_of_pos (isNameChar_of_mem hname)
  have hlong : isName (name ++ more.takeWhile isNameChar) = true := by
    cases name with
    | nil => cases hname
    | cons c cs =>
        rw [isName, Bool.and_eq_true, List.all_eq_true] at hname
        rw [List.cons_append, isName, Bool.and_eq_true, List.all_append, Bool.and_eq_true,
          List.all_eq_true, List.all_eq_true]
        exact ⟨hname.1, hname.2, fun d hd => List.mem_takeWhile_imp hd⟩
  unfold leadingName?
  dsimp only
  rw [htake, if_pos hlong]
  exact Option.some_ne_none _

/-- A brace ends a name. -/
theorem endsName_brace (rest : List Char) : EndsName ('\x7d' :: rest) := by
  intro c hc
  obtain rfl : '\x7d' = c := Option.some.inj hc
  decide

/-- **The name in braces that a text begins with behind the first of them.** -/
theorem leadingBracedName?_eq_some_iff {cs name : List Char} :
    leadingBracedName? cs = some name ↔
      ∃ rest, cs = name ++ '\x7d' :: rest ∧ isName name = true := by
  unfold leadingBracedName?
  constructor
  · intro h
    split at h
    · rename_i found hfound
      split at h
      · rename_i hbrace
        obtain rfl := Option.some.inj h
        obtain ⟨rest, rfl, hname, -⟩ := leadingName?_eq_some_iff.mp hfound
        rw [List.drop_left] at hbrace
        obtain ⟨more, rfl⟩ := List.head?_eq_some_iff.mp hbrace
        exact ⟨more, rfl, hname⟩
      · cases h
    · cases h
  · rintro ⟨rest, rfl, hname⟩
    have hlead : leadingName? (name ++ '\x7d' :: rest) = some name :=
      leadingName?_eq_some_iff.mpr ⟨_, rfl, hname, endsName_brace rest⟩
    rw [hlead]
    dsimp only
    rw [List.drop_left, if_pos List.head?_cons]

/-! ## §3. Pieces. -/

/-- A piece at the start of a text and what is left behind it. -/
inductive Begins : List Char → Piece → List Char → Prop where
  /-- A character that stands for itself. -/
  | plain {c : Char} {rest : List Char} (plain : c ≠ '$') : Begins (c :: rest) (.plain c) rest
  /-- A doubled dollar sign. -/
  | dollar {rest : List Char} : Begins ('$' :: '$' :: rest) .dollar rest
  /-- A name. -/
  | named {name rest : List Char} (isName : isName name = true) (ends : EndsName rest) :
      Begins ('$' :: (name ++ rest)) (.reference false name) rest
  /-- A name in braces. -/
  | braced {name rest : List Char} (isName : isName name = true) :
      Begins ('$' :: '\x7b' :: (name ++ '\x7d' :: rest)) (.reference true name) rest
  /-- None of these. -/
  | stray {rest : List Char} (noDollar : ∀ more, rest ≠ '$' :: more)
      (noName : ∀ name more, isName name = true → rest ≠ name ++ more)
      (noBraces : ∀ name more, isName name = true → rest ≠ '\x7b' :: (name ++ '\x7d' :: more)) :
      Begins ('$' :: rest) .stray rest

/-- A piece and what is left behind it make up the text. -/
theorem Begins.eq_append {cs rest : List Char} {piece : Piece} (h : Begins cs piece rest) :
    cs = piece.source ++ rest := by
  cases h with
  | plain plain => rfl
  | dollar => rfl
  | named isName ends => rfl
  | braced isName => simp [Piece.source]
  | stray noDollar noName noBraces => rfl

/-- No name begins with a dollar sign or with a brace. -/
theorem ne_cons_of_isName {name more : List Char} (hname : isName name = true) {c : Char}
    (hc : isNameStart c = false) (rest : List Char) : c :: rest ≠ name ++ more := by
  intro h
  cases name with
  | nil => cases hname
  | cons d name =>
      obtain ⟨rfl, -⟩ := List.cons.inj h
      rw [isName, hc] at hname
      cases hname

/-- The piece that a dollar sign begins. -/
theorem exists_begins_dollarPiece (cs : List Char) :
    ∃ rest, Begins ('$' :: cs) (dollarPiece cs) rest := by
  unfold dollarPiece
  split
  · exact ⟨_, .dollar⟩
  · rename_i rest
    split
    · rename_i name hbraced
      obtain ⟨more, rfl, hname⟩ := leadingBracedName?_eq_some_iff.mp hbraced
      exact ⟨more, .braced hname⟩
    · rename_i hnone
      refine ⟨_, .stray ?_ ?_ ?_⟩
      · intro more h
        cases h
      · intro name more hname
        exact ne_cons_of_isName hname (by decide) rest
      · intro name more hname h
        rw [leadingBracedName?_eq_some_iff.mpr ⟨more, (List.cons.inj h).2, hname⟩] at hnone
        cases hnone
  · rename_i hdollar hbrace
    split
    · rename_i name hlead
      obtain ⟨more, rfl, hname, hends⟩ := leadingName?_eq_some_iff.mp hlead
      exact ⟨more, .named hname hends⟩
    · rename_i hnone
      refine ⟨_, .stray hdollar ?_ ?_⟩
      · rintro name more hname rfl
        exact leadingName?_ne_none hname hnone
      · rintro name more hname rfl
        exact hbrace _ rfl

/-- **A text that is not empty begins with its first piece.** -/
theorem begins_firstPiece (c : Char) (cs : List Char) :
    Begins (c :: cs) (firstPiece c cs) (cs.drop ((firstPiece c cs).source.length - 1)) := by
  have hexists : ∃ rest, Begins (c :: cs) (firstPiece c cs) rest := by
    unfold firstPiece
    by_cases hc : c = '$'
    · rw [if_pos hc, hc]
      exact exists_begins_dollarPiece cs
    · rw [if_neg hc]
      exact ⟨cs, .plain hc⟩
  obtain ⟨rest, hbegins⟩ := hexists
  -- What is left is the text without the characters of the piece, of which there is one.
  have hpos : 0 < (firstPiece c cs).source.length := by
    cases firstPiece c cs with
    | plain d => exact Nat.one_pos
    | dollar => exact Nat.two_pos
    | reference braced name => cases braced <;> simp [Piece.source]
    | stray => exact Nat.one_pos
  have hrest : cs.drop ((firstPiece c cs).source.length - 1) = rest := by
    have hdrop := congrArg (List.drop (firstPiece c cs).source.length) hbegins.eq_append
    rw [List.drop_left] at hdrop
    rw [← hdrop]
    obtain ⟨n, hn⟩ : ∃ n, (firstPiece c cs).source.length = n + 1 :=
      ⟨_, (Nat.sub_add_cancel hpos).symm⟩
    rw [hn, List.drop_succ_cons, Nat.add_sub_cancel]
  rw [hrest]
  exact hbegins

/-! ## §4. Failures. -/

section Map

variable {ε α β : Type} {f : α → β} {r : Except ε α}

theorem exists_of_map_eq_ok {y : β} (h : r.map f = .ok y) : ∃ x, r = .ok x ∧ f x = y := by
  cases r with
  | error e => cases h
  | ok x => exact ⟨x, rfl, Except.ok.inj h⟩

theorem eq_error_of_map {e : ε} (h : r.map f = .error e) : r = .error e := by
  cases r with
  | error cause =>
      obtain rfl : cause = e := Except.error.inj h
      rfl
  | ok x => cases h

end Map

/-- A piece that can be filled is passed. -/
theorem passed_of_fill {b : Bindings} {place : Place} {piece : Piece} {text : List Char}
    (hfill : piece.fill b place = .ok text) {cs tail before rest : List Char}
    (hbegins : Begins cs piece tail) (htail : tail = before ++ rest)
    (hpassed : Passed b before rest) : Passed b (piece.source ++ before) rest := by
  -- A name that is filled has a value.
  have hvalue : ∀ {braced name}, (Piece.reference braced name).fill b place = .ok text →
      ∃ v, b.get? (String.ofList name) = some v := by
    intro braced name h
    unfold Piece.fill at h
    dsimp only at h
    split at h
    · rename_i v hv
      exact ⟨v, hv⟩
    · cases h
  cases hbegins with
  | plain plain => exact .plain plain hpassed
  | dollar => exact .dollar hpassed
  | named isName ends =>
      obtain ⟨v, hv⟩ := hvalue hfill
      rw [htail] at ends
      exact .named isName ends hv hpassed
  | @braced name _ isName =>
      obtain ⟨v, hv⟩ := hvalue hfill
      have hsource : (Piece.reference true name).source ++ before =
          '$' :: '\x7b' :: (name ++ '\x7d' :: before) := by
        simp [Piece.source]
      rw [hsource]
      exact .braced isName hv hpassed
  | stray noDollar noName noBraces => cases hfill

/-- A piece that cannot be filled offends. -/
theorem offends_of_fill {b : Bindings} {place : Place} {piece : Piece} {e : RenderError}
    (hfill : piece.fill b place = .error e) {cs rest : List Char} (hbegins : Begins cs piece rest) :
    Offends b place cs e := by
  -- A name that cannot be filled has no value.
  have hunbound : ∀ {braced name}, (Piece.reference braced name).fill b place = .error e →
      b.get? (String.ofList name) = none ∧ e = .undefinedName (String.ofList name) place := by
    intro braced name h
    unfold Piece.fill at h
    dsimp only at h
    split at h
    · cases h
    · rename_i hnone
      exact ⟨hnone, (Except.error.inj h).symm⟩
  cases hbegins with
  | plain plain => cases hfill
  | dollar => cases hfill
  | named isName ends =>
      obtain ⟨hnone, rfl⟩ := hunbound hfill
      exact .named isName ends hnone
  | braced isName =>
      obtain ⟨hnone, rfl⟩ := hunbound hfill
      exact .braced isName hnone
  | stray noDollar noName noBraces =>
      obtain rfl : RenderError.invalidPlaceholder place = e := Except.error.inj hfill
      exact .invalid noDollar noName noBraces

/-- **A failure is that of the first dollar sign that cannot be filled.** -/
theorem exists_of_fillAll_error {b : Bindings} {e : RenderError} (place : Place)
    (cs : List Char) : fillAll b (pieces place cs) = .error e →
      ∃ before rest, cs = before ++ rest ∧ Passed b before rest ∧
        Offends b (place.afterAll before) rest e := by
  -- Piece by piece: what is passed so far stands before what the rest of the template gives.
  fun_induction pieces place cs with
  | case1 place => intro h; cases h
  | case2 place c cs piece ih =>
      intro h
      have hbegins : Begins (c :: cs) piece (cs.drop (piece.source.length - 1)) :=
        begins_firstPiece c cs
      rw [fillAll] at h
      cases hfill : piece.fill b place with
      | error cause =>
          rw [hfill] at h
          obtain rfl : cause = e := Except.error.inj h
          exact ⟨[], c :: cs, rfl, .nil _, offends_of_fill hfill hbegins⟩
      | ok text =>
          rw [hfill] at h
          obtain ⟨before, rest, htail, hpassed, hoffends⟩ := ih (eq_error_of_map h)
          refine ⟨piece.source ++ before, rest, ?_, passed_of_fill hfill hbegins htail hpassed, ?_⟩
          · rw [List.append_assoc, ← htail]
            exact hbegins.eq_append
          · rw [Place.afterAll_append]
            exact hoffends

/-- **Why a template cannot be filled.**  All dollar signs before one can be filled, and that one
cannot. -/
theorem exists_of_substitute_error {template : String} {firstLine : Nat} {b : Bindings}
    {e : RenderError} (h : substitute template firstLine b = .error e) :
    ∃ before rest, template.toList = before ++ rest ∧ Passed b before rest ∧
      Offends b ((⟨firstLine, 1⟩ : Place).afterAll before) rest e := by
  unfold substitute at h
  exact exists_of_fillAll_error ⟨firstLine, 1⟩ template.toList (eq_error_of_map h)

end Fanout.Template
