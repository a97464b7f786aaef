/-
  Fanout.Proofs.Text
  ──────────────────
  **Cutting, lines, places and trimming.**

  A text can be cut anywhere: its two sides have the parts, and its lines
  the lines, that they have together.  A place counts lines, and the bytes
  of the line that is not ended yet:

    • `splitAt_append_cons`, `splitAt_append` — cuts at a separator and
      between separators,
    • `splitFirst?_eq_some_iff`, `splitLast?_eq_some_iff` — the parts around
      the first separator and around the last one,
    • `lines_of_append` — some of the lines of a text are the lines of what
      they make up,
    • `exists_splitAt_lines` — lines are parts between line feeds,
    • `lines_append` — behind the end of a line the lines begin anew,
    • `exists_parts_afterAll` — the place behind a text is the number of its
      parts between line feeds and the bytes of the last of them,
    • `exists_trim` — trimming takes blanks off both ends and nothing else,
    • `map_trim_splitAt_trim` — parts that are trimmed do not change when the
      whole is trimmed first.
-/
import Mathlib.Data.List.Induction
import Mathlib.Data.List.TakeWhile
import Fanout.Text.Blank
import Fanout.Text.Place
import Fanout.Text.Split
import Fanout.Text.Utf8

namespace Fanout.Text

/-! ## §1. Parts between separators. -/

theorem splitAt_ne_nil (separator : Char) (cs : List Char) : splitAt separator cs ≠ [] := by
  intro h
  have hlength := length_splitAt separator cs
  rw [h] at hlength
  simp at hlength

/-- A text without the separator is not cut. -/
theorem splitAt_of_not_mem {separator : Char} (cs : List Char) :
    separator ∉ cs → splitAt separator cs = [cs] := by
  induction cs with
  | nil => intro _; rfl
  | cons c cs ih =>
      intro h
      have hc : ¬ c = separator := fun e => h (by rw [e]; exact List.mem_cons_self)
      have hcs : separator ∉ cs := fun hm => h (List.mem_cons_of_mem c hm)
      rw [splitAt, if_neg hc, ih hcs]

/-- A character that is no separator begins the first part. -/
theorem exists_splitAt_cons {separator c : Char} (hc : c ≠ separator) (cs : List Char) :
    ∃ tail behind, splitAt separator (c :: cs) = (c :: tail) :: behind := by
  rw [splitAt, if_neg hc]
  cases splitAt separator cs with
  | nil => exact ⟨[], [], rfl⟩
  | cons part parts => exact ⟨part, parts, rfl⟩

/-- **A separator cuts a text into the parts of its two sides.** -/
theorem splitAt_append_cons (separator : Char) (before behind : List Char) :
    splitAt separator (before ++ separator :: behind) =
      splitAt separator before ++ splitAt separator behind := by
  induction before with
  | nil => simp [splitAt]
  | cons c before ih =>
      by_cases hc : c = separator
      · rw [List.cons_append, splitAt, if_pos hc, ih, splitAt, if_pos hc]
        rfl
      · rw [List.cons_append, splitAt, if_neg hc, ih, splitAt, if_neg hc]
        -- The character joins the first part, which is one of the text before the separator.
        cases hparts : splitAt separator before with
        | nil => exact absurd hparts (splitAt_ne_nil separator before)
        | cons part parts => rfl

/-- No part has the separator. -/
theorem not_mem_of_mem_splitAt {separator : Char} (cs : List Char) :
    ∀ part ∈ splitAt separator cs, separator ∉ part := by
  induction cs with
  | nil =>
      intro part h
      obtain rfl : part = [] := by simpa [splitAt] using h
      exact List.not_mem_nil
  | cons c cs ih =>
      intro part h
      by_cases hc : c = separator
      · rw [splitAt, if_pos hc, List.mem_cons] at h
        rcases h with rfl | h
        · exact List.not_mem_nil
        · exact ih part h
      · rw [splitAt, if_neg hc] at h
        cases hparts : splitAt separator cs with
        | nil => exact absurd hparts (splitAt_ne_nil separator cs)
        | cons first rest =>
            rw [hparts] at h ih
            rcases List.mem_cons.mp h with rfl | h
            · -- The first part has one character more, and that is no separator.
              intro hm
              rcases List.mem_cons.mp hm with hm | hm
              · exact hc hm.symm
              · exact ih first List.mem_cons_self hm
            · exact ih part (List.mem_cons_of_mem first h)

/-- The last part of a text: all of it, or what stands behind the last separator. -/
theorem cases_splitAt (separator : Char) (cs : List Char) :
    separator ∉ cs ∧ splitAt separator cs = [cs] ∨
      ∃ before last, cs = before ++ separator :: last ∧ separator ∉ last ∧
        splitAt separator cs = splitAt separator before ++ [last] := by
  by_cases hmem : separator ∈ cs
  · -- The last separator is the first one backwards.
    obtain ⟨last, before, hback, hlast⟩ := List.eq_append_cons_of_mem (List.mem_reverse.mpr hmem)
    have hlast : separator ∉ last.reverse := fun h => hlast (List.mem_reverse.mp h)
    have hcs : cs = before.reverse ++ separator :: last.reverse := by
      rw [← List.reverse_reverse cs, hback]
      simp
    refine .inr ⟨before.reverse, last.reverse, hcs, hlast, ?_⟩
    rw [hcs, splitAt_append_cons, splitAt_of_not_mem _ hlast]
  · exact .inl ⟨hmem, splitAt_of_not_mem cs hmem⟩

/-- **The last part before a cut and the first one behind it are one part.** -/
theorem splitAt_append (separator : Char) (ys : List Char) {first : List Char}
    {more : List (List Char)} (hys : splitAt separator ys = first :: more) (xs : List Char) :
    ∀ {done : List (List Char)} {last : List Char}, splitAt separator xs = done ++ [last] →
      splitAt separator (xs ++ ys) = done ++ (last ++ first) :: more := by
  induction xs with
  | nil =>
      intro done last h
      obtain ⟨rfl, rfl⟩ : done = [] ∧ last = [] := by
        cases done with
        | nil => simpa [splitAt, eq_comm] using h
        | cons part done => simp [splitAt] at h
      exact hys
  | cons x xs ih =>
      intro done last h
      by_cases hx : x = separator
      · rw [splitAt, if_pos hx] at h
        rw [List.cons_append, splitAt, if_pos hx]
        cases done with
        | nil =>
            rw [List.nil_append, List.cons.injEq] at h
            exact absurd h.2 (splitAt_ne_nil separator xs)
        | cons part done =>
            rw [List.cons_append, List.cons.injEq] at h
            rw [ih h.2, ← h.1]
            rfl
      · rw [splitAt, if_neg hx] at h
        rw [List.cons_append, splitAt, if_neg hx]
        -- The character joins the first part, which may be the last one as well.
        cases hparts : splitAt separator xs with
        | nil => exact absurd hparts (splitAt_ne_nil separator xs)
        | cons part parts =>
            rw [hparts] at h
            cases done with
            | nil =>
                rw [List.nil_append, List.cons.injEq] at h
                obtain ⟨rfl, rfl⟩ := h
                have hone : splitAt separator xs = [] ++ [part] := hparts
                rw [ih hone]
                rfl
            | cons before done =>
                rw [List.cons_append, List.cons.injEq] at h
                obtain ⟨rfl, rfl⟩ := h
                have hmany : splitAt separator xs = (part :: done) ++ [last] := hparts
                rw [ih hmany]
                rfl

/-- Texts without the separator are the parts of what they are joined to. -/
theorem splitAt_intercalate {separator : Char} (parts : List (List Char)) :
    parts ≠ [] → (∀ part ∈ parts, separator ∉ part) →
      splitAt separator ([separator].intercalate parts) = parts := by
  induction parts with
  | nil => intro h _; exact absurd rfl h
  | cons part parts ih =>
      intro _ h
      have hpart := splitAt_of_not_mem part (h part List.mem_cons_self)
      cases parts with
      | nil => simpa using hpart
      | cons next rest =>
          have hrest := ih (List.cons_ne_nil next rest)
            fun p hp => h p (List.mem_cons_of_mem part hp)
          rw [List.intercalate_cons_cons, List.append_assoc, List.singleton_append,
            splitAt_append_cons, hpart, hrest]
          rfl

/-! ## §2. The first and the last separator, and runs of a kind. -/

/-- **The first separator cuts a text into what stands before it, where there is none, and what
stands behind it.** -/
theorem splitFirst?_eq_some_iff {separator : Char} (cs : List Char) :
    ∀ {before behind : List Char}, splitFirst? separator cs = some (before, behind) ↔
      cs = before ++ separator :: behind ∧ separator ∉ before := by
  induction cs with
  | nil =>
      intro before behind
      simp [splitFirst?]
  | cons c cs ih =>
      intro before behind
      by_cases hc : c = separator
      · rw [splitFirst?, if_pos hc]
        constructor
        · intro h
          obtain ⟨rfl, rfl⟩ : [] = before ∧ cs = behind := by simpa using h
          rw [hc]
          exact ⟨rfl, List.not_mem_nil⟩
        · rintro ⟨h, hnone⟩
          cases before with
          | nil => rw [(List.cons.inj h).2]
          | cons b before =>
              -- The separator would stand before itself.
              rw [← (List.cons.inj h).1, hc] at hnone
              exact absurd List.mem_cons_self hnone
      · rw [splitFirst?, if_neg hc, Option.map_eq_some_iff]
        constructor
        · rintro ⟨⟨before', behind'⟩, hcut, heq⟩
          obtain ⟨rfl, rfl⟩ : c :: before' = before ∧ behind' = behind := by simpa using heq
          obtain ⟨hcs, hnone⟩ := ih.mp hcut
          refine ⟨by rw [hcs, List.cons_append], fun hmem => ?_⟩
          rcases List.mem_cons.mp hmem with hmem | hmem
          · exact hc hmem.symm
          · exact hnone hmem
        · rintro ⟨h, hnone⟩
          cases before with
          | nil => exact absurd (List.cons.inj h).1 hc
          | cons b before =>
              obtain ⟨rfl, hcs⟩ := List.cons.inj h
              have hcut := ih.mpr ⟨hcs, fun hmem => hnone (List.mem_cons_of_mem c hmem)⟩
              exact ⟨(before, behind), hcut, rfl⟩

/-- What stands around the first separator is told from the text. -/
theorem append_cons_inj {separator : Char} {before before' behind behind' : List Char}
    (h : separator ∉ before) (h' : separator ∉ before')
    (heq : before ++ separator :: behind = before' ++ separator :: behind') :
    before = before' ∧ behind = behind' := by
  have hcut := (splitFirst?_eq_some_iff (before ++ separator :: behind)).mpr ⟨rfl, h⟩
  have hcut' := (splitFirst?_eq_some_iff (before ++ separator :: behind)).mpr ⟨heq, h'⟩
  rw [hcut] at hcut'
  exact Prod.mk.inj (Option.some.inj hcut')

/-- A text is not cut if and only if it has no separator. -/
theorem splitFirst?_eq_none_iff {separator : Char} {cs : List Char} :
    splitFirst? separator cs = none ↔ separator ∉ cs := by
  constructor
  · intro h hmem
    obtain ⟨before, behind, hcs, hnone⟩ := List.eq_append_cons_of_mem hmem
    rw [(splitFirst?_eq_some_iff cs).mpr ⟨hcs, hnone⟩] at h
    cases h
  · intro h
    cases hcut : splitFirst? separator cs with
    | none => rfl
    | some parts =>
        obtain ⟨hcs, -⟩ := (splitFirst?_eq_some_iff cs).mp hcut
        exact absurd (by rw [hcs]; simp) h

/-- **The last separator cuts a text into what stands before it and what stands behind it,
where there is none.** -/
theorem splitLast?_eq_some_iff {separator : Char} {cs before behind : List Char} :
    splitLast? separator cs = some (before, behind) ↔
      cs = before ++ separator :: behind ∧ separator ∉ behind := by
  unfold splitLast?
  rw [Option.map_eq_some_iff]
  constructor
  · rintro ⟨⟨behind', before'⟩, hcut, heq⟩
    obtain ⟨rfl, rfl⟩ : before'.reverse = before ∧ behind'.reverse = behind := by simpa using heq
    obtain ⟨hcs, hnone⟩ := (splitFirst?_eq_some_iff _).mp hcut
    -- The last separator is the first one backwards.
    refine ⟨?_, fun hmem => hnone (List.mem_reverse.mp hmem)⟩
    rw [← List.reverse_reverse cs, hcs]
    simp
  · rintro ⟨rfl, hnone⟩
    have hback : (before ++ separator :: behind).reverse =
        behind.reverse ++ separator :: before.reverse := by simp
    have hcut := (splitFirst?_eq_some_iff _).mpr
      ⟨hback, fun hmem => hnone (List.mem_reverse.mp hmem)⟩
    exact ⟨(behind.reverse, before.reverse), hcut, by simp⟩

/-- A run of characters of a kind is read whole where none of the kind comes next. -/
theorem takeWhile_append_of_stop {p : Char → Bool} {run rest : List Char}
    (hrun : ∀ c ∈ run, p c = true) (hstop : ∀ c, rest.head? = some c → p c = false) :
    (run ++ rest).takeWhile p = run ∧ (run ++ rest).dropWhile p = rest := by
  rw [List.takeWhile_append_of_pos hrun, List.dropWhile_append_of_pos hrun]
  cases rest with
  | nil => simp
  | cons c rest =>
      have hc : ¬ p c = true := by
        rw [hstop c rfl]
        decide
      rw [List.takeWhile_cons_of_neg hc, List.dropWhile_cons_of_neg hc, List.append_nil]
      exact ⟨rfl, rfl⟩

/-- A run is empty if the text does not begin with its kind. -/
theorem isEmpty_takeWhile (p : Char → Bool) (cs : List Char) :
    (cs.takeWhile p).isEmpty = !cs.head?.any p := by
  cases cs with
  | nil => rfl
  | cons c cs =>
      rw [List.takeWhile_cons]
      show _ = !p c
      cases p c with
      | true => rfl
      | false => rfl

/-! ## §3. Lines. -/

/-- A text without a line feed is one line. -/
theorem lines_of_not_mem (cs : List Char) : '\n' ∉ cs → cs ≠ [] → lines cs = [cs] := by
  induction cs with
  | nil => intro _ h; exact absurd rfl h
  | cons c cs ih =>
      intro h _
      have hc : ¬ c = '\n' := fun e => h (by rw [e]; exact List.mem_cons_self)
      have hcs : '\n' ∉ cs := fun hm => h (List.mem_cons_of_mem c hm)
      rw [lines, if_neg hc]
      cases cs with
      | nil => rfl
      | cons d cs => rw [ih hcs (List.cons_ne_nil d cs)]

/-- **A line feed ends the first line.** -/
theorem lines_append_cons (body rest : List Char) :
    '\n' ∉ body → lines (body ++ '\n' :: rest) = (body ++ ['\n']) :: lines rest := by
  induction body with
  | nil =>
      intro _
      rw [List.nil_append, lines, if_pos rfl]
      rfl
  | cons c body ih =>
      intro h
      have hc : ¬ c = '\n' := fun e => h (by rw [e]; exact List.mem_cons_self)
      have hbody : '\n' ∉ body := fun hm => h (List.mem_cons_of_mem c hm)
      rw [List.cons_append, lines, if_neg hc, ih hbody]
      rfl

/-- The first line of a text: all of it, or what a line feed ends. -/
theorem cases_lines {cs line : List Char} {rest : List (List Char)}
    (h : lines cs = line :: rest) :
    (cs = line ∧ rest = [] ∧ lines line = [line]) ∨
      ∃ body behind, '\n' ∉ body ∧ line = body ++ ['\n'] ∧ cs = line ++ behind ∧
        lines behind = rest := by
  have hne : cs ≠ [] := by
    rintro rfl
    cases h
  by_cases hmem : '\n' ∈ cs
  · obtain ⟨body, behind, hcs, hbody⟩ := List.eq_append_cons_of_mem hmem
    rw [hcs, lines_append_cons body behind hbody, List.cons.injEq] at h
    obtain ⟨rfl, rfl⟩ := h
    refine .inr ⟨body, behind, hbody, rfl, ?_, rfl⟩
    rw [hcs, List.append_assoc, List.singleton_append]
  · have hone := lines_of_not_mem cs hmem hne
    rw [hone, List.cons.injEq] at h
    obtain ⟨rfl, rfl⟩ := h
    exact .inl ⟨rfl, rfl, hone⟩

/-- **Some lines of a text are the lines of what they make up.** -/
theorem lines_of_append (first rest : List (List Char)) :
    ∀ {cs : List Char}, lines cs = first ++ rest →
      lines first.flatten = first ∧ lines rest.flatten = rest := by
  induction first with
  | nil =>
      intro cs h
      rw [List.nil_append] at h
      rw [← h, flatten_lines]
      exact ⟨rfl, rfl⟩
  | cons line first ih =>
      intro cs h
      rcases cases_lines h with ⟨rfl, hrest, hline⟩ | ⟨body, behind, hbody, rfl, -, hbehind⟩
      · -- The text is one line, so there are no others.
        obtain ⟨rfl, rfl⟩ := List.append_eq_nil_iff.mp hrest
        exact ⟨by simpa using hline, rfl⟩
      · obtain ⟨hfirst, hrest⟩ := ih hbehind
        refine ⟨?_, hrest⟩
        rw [List.flatten_cons, List.append_assoc, List.singleton_append,
          lines_append_cons body _ hbody, hfirst]

/-- **Lines before others are parts between line feeds**, each with the line feed that ends
it. -/
theorem exists_splitAt_lines (first : List (List Char)) :
    ∀ {cs : List Char} {rest : List (List Char)}, lines cs = first ++ rest → rest ≠ [] →
      ∃ parts, first = parts.map (· ++ ['\n']) ∧
        splitAt '\n' cs = parts ++ splitAt '\n' rest.flatten := by
  induction first with
  | nil =>
      intro cs rest h _
      rw [List.nil_append] at h
      exact ⟨[], rfl, by rw [← h, flatten_lines, List.nil_append]⟩
  | cons line first ih =>
      intro cs rest h hne
      rcases cases_lines h with ⟨-, hrest, -⟩ | ⟨body, behind, hbody, rfl, rfl, hbehind⟩
      · exact absurd (List.append_eq_nil_iff.mp hrest).2 hne
      · obtain ⟨parts, rfl, hparts⟩ := ih hbehind hne
        refine ⟨body :: parts, rfl, ?_⟩
        rw [List.append_assoc, List.singleton_append, splitAt_append_cons,
          splitAt_of_not_mem body hbody, hparts]
        rfl

/-- A text that ends where a line ends: it is empty or its last character is a line feed. -/
def EndsLine (cs : List Char) : Prop := cs = [] ∨ cs.getLast? = some '\n'

theorem endsLine_append_lineFeed (cs : List Char) : EndsLine (cs ++ ['\n']) :=
  .inr List.getLast?_concat

theorem EndsLine.append {first rest : List Char} (hfirst : EndsLine first)
    (hrest : EndsLine rest) : EndsLine (first ++ rest) := by
  rcases hrest with rfl | hlast
  · rw [List.append_nil]
    exact hfirst
  · exact .inr (by rw [List.getLast?_append, hlast, Option.some_or])

/-- **Behind the end of a line the lines begin anew.** -/
theorem lines_append (cs more : List Char) :
    EndsLine cs → lines (cs ++ more) = lines cs ++ lines more := by
  induction cs with
  | nil => intro _; rfl
  | cons c cs ih =>
      intro h
      have hlast : (c :: cs).getLast? = some '\n' := h.resolve_left (List.cons_ne_nil c cs)
      by_cases hc : c = '\n'
      · have hcs : EndsLine cs := by
          cases cs with
          | nil => exact .inl rfl
          | cons d ds => exact .inr (by simpa using hlast)
        show lines (c :: (cs ++ more)) = _
        rw [lines, if_pos hc, ih hcs, lines, if_pos hc]
        rfl
      · -- The line goes on, so the text does.
        have hne : cs ≠ [] := by
          rintro rfl
          exact hc (by simpa using hlast)
        have hcs : EndsLine cs := .inr (by rwa [List.getLast?_cons_of_ne_nil hne] at hlast)
        show lines (c :: (cs ++ more)) = _
        rw [lines, if_neg hc, ih hcs, lines, if_neg hc]
        cases hlines : lines cs with
        | nil =>
            have hflat := flatten_lines cs
            rw [hlines] at hflat
            exact absurd hflat.symm hne
        | cons line rest => rfl

/-- Lines before others end where a line ends. -/
theorem endsLine_of_lines {first rest : List (List Char)} {cs : List Char}
    (h : lines cs = first ++ rest) (hne : rest ≠ []) : EndsLine first.flatten := by
  obtain ⟨parts, rfl, -⟩ := exists_splitAt_lines first h hne
  rcases List.eq_nil_or_concat parts with rfl | ⟨done, last, rfl⟩
  · exact .inl rfl
  · rw [List.concat_eq_append, List.map_append, List.flatten_append, List.map_singleton,
      List.flatten_singleton, ← List.append_assoc]
    exact endsLine_append_lineFeed _

/-- **Lines that end where a line ends stay when the text goes on.** -/
theorem lines_append_of_lines {first rest : List (List Char)} {cs : List Char}
    (h : lines cs = first ++ rest) (hends : EndsLine first.flatten) (more : List Char) :
    lines (cs ++ more) = first ++ lines (rest.flatten ++ more) := by
  have hcs : cs = first.flatten ++ rest.flatten := by
    rw [← List.flatten_append, ← h, flatten_lines]
  calc lines (cs ++ more)
      = lines (first.flatten ++ (rest.flatten ++ more)) := by rw [← List.append_assoc, ← hcs]
    _ = lines first.flatten ++ lines (rest.flatten ++ more) := lines_append _ _ hends
    _ = first ++ lines (rest.flatten ++ more) := by rw [(lines_of_append first rest h).1]

/-- Texts without line feeds, each ended by one, are lines. -/
theorem lines_flatMap (bodies : List (List Char)) (rest : List Char) :
    (∀ body ∈ bodies, '\n' ∉ body) →
      lines (bodies.flatMap (· ++ ['\n']) ++ rest) = bodies.map (· ++ ['\n']) ++ lines rest := by
  induction bodies with
  | nil => intro _; rfl
  | cons body bodies ih =>
      intro h
      rw [List.flatMap_cons, List.append_assoc, List.append_assoc, List.singleton_append,
        lines_append_cons body _ (h body List.mem_cons_self),
        ih fun other hother => h other (List.mem_cons_of_mem body hother)]
      rfl

/-! ## §4. Places. -/

/-- Behind a text without a line feed the line goes on. -/
theorem afterAll_of_not_mem (cs : List Char) :
    ∀ p : Place, '\n' ∉ cs → p.afterAll cs = ⟨p.line, p.column + byteLength cs⟩ := by
  induction cs with
  | nil => intro p _; rfl
  | cons c cs ih =>
      intro p h
      have hc : ¬ c = '\n' := fun e => h (by rw [e]; exact List.mem_cons_self)
      have hcs : '\n' ∉ cs := fun hm => h (List.mem_cons_of_mem c hm)
      show (p.after c).afterAll cs = _
      rw [ih (p.after c) hcs, Place.after, if_neg hc, byteLength, Nat.add_assoc]

/-- **A place is the number of parts between line feeds and the bytes of the last of them.** -/
theorem exists_parts_afterAll (n : Nat) (cs : List Char) :
    ∃ done last, splitAt '\n' cs = done ++ [last] ∧
      (⟨n, 1⟩ : Place).afterAll cs = ⟨n + done.length, byteLength last + 1⟩ := by
  induction cs using List.reverseRecOn with
  | nil => exact ⟨[], [], rfl, rfl⟩
  | append_singleton cs c ih =>
      obtain ⟨done, last, hparts, hplace⟩ := ih
      by_cases hc : c = '\n'
      · refine ⟨done ++ [last], [], ?_, ?_⟩
        · rw [hc, splitAt_append_cons, hparts]
          rfl
        · rw [Place.afterAll_append, hplace, hc, List.length_append]
          rfl
      · have hone : splitAt '\n' [c] = [[c]] := splitAt_of_not_mem [c] (by simpa [eq_comm] using hc)
        refine ⟨done, last ++ [c], splitAt_append '\n' [c] hone cs hparts, ?_⟩
        have hafter : (⟨n + done.length, byteLength last + 1⟩ : Place).afterAll [c] =
            ⟨n + done.length, byteLength last + 1 + byteLength [c]⟩ :=
          afterAll_of_not_mem [c] _ (by simpa [eq_comm] using hc)
        rw [Place.afterAll_append, hplace, hafter, byteLength_append]
        congr 1
        omega

/-! ## §5. Trimming. -/

/-- The characters from `!` to `~` are no blanks. -/
theorem isBlank_of_printed {c : Char} (hlow : 33 ≤ c.toNat) (hhigh : c.toNat ≤ 126) :
    isBlank c = false := by
  simp only [isBlank, Bool.or_eq_false_iff, Bool.and_eq_false_iff, decide_eq_false_iff_not,
    beq_eq_false_iff_ne]
  omega

theorem exists_dropWhile (cs : List Char) :
    ∃ lead, (∀ c ∈ lead, isBlank c = true) ∧ cs = lead ++ cs.dropWhile isBlank :=
  ⟨cs.takeWhile isBlank, fun _ hc => List.mem_takeWhile_imp hc,
    List.takeWhile_append_dropWhile.symm⟩

/-- **Trimming takes blanks off both ends and nothing else.** -/
theorem exists_trim (cs : List Char) :
    ∃ lead trail, (∀ c ∈ lead, isBlank c = true) ∧ (∀ c ∈ trail, isBlank c = true) ∧
      cs = lead ++ trim cs ++ trail := by
  obtain ⟨lead, hlead, hleft⟩ := exists_dropWhile cs
  obtain ⟨back, hback, hright⟩ := exists_dropWhile (trimLeft cs).reverse
  refine ⟨lead, back.reverse, hlead, fun c hc => hback c (List.mem_reverse.mp hc), ?_⟩
  have htrim : trimLeft cs = trim cs ++ back.reverse := by
    rw [← List.reverse_reverse (trimLeft cs), hright, List.reverse_append]
    rfl
  rw [List.append_assoc, ← htrim]
  exact hleft

/-- Trimming takes a blank off the end. -/
theorem trim_concat {b : Char} (hb : isBlank b = true) (cs : List Char) :
    trim (cs ++ [b]) = trim cs := by
  unfold trim trimLeft trimRight
  rw [List.dropWhile_append]
  split
  · rename_i hempty
    rw [List.isEmpty_iff.mp hempty, List.dropWhile_cons_of_pos hb]
    rfl
  · rw [List.reverse_append, List.reverse_singleton, List.singleton_append,
      List.dropWhile_cons_of_pos hb]

/-- Blanks behind a text do not count. -/
theorem trim_append_of_blank (trail : List Char) :
    ∀ cs : List Char, (∀ c ∈ trail, isBlank c = true) → trim (cs ++ trail) = trim cs := by
  induction trail with
  | nil => intro cs _; rw [List.append_nil]
  | cons b trail ih =>
      intro cs h
      rw [← List.singleton_append, ← List.append_assoc,
        ih (cs ++ [b]) fun c hc => h c (List.mem_cons_of_mem b hc),
        trim_concat (h b List.mem_cons_self)]

/-- Blanks before a text do not count. -/
theorem trim_append_left_of_blank {lead : List Char} (h : ∀ c ∈ lead, isBlank c = true)
    (cs : List Char) : trim (lead ++ cs) = trim cs := by
  unfold trim trimLeft
  rw [List.dropWhile_append_of_pos h]

/-- A text without blanks stays as it is. -/
theorem trim_of_not_blank {cs : List Char} (h : ∀ c ∈ cs, isBlank c = false) : trim cs = cs := by
  obtain ⟨lead, trail, hlead, htrail, hcs⟩ := exists_trim cs
  have hnone : ∀ {part : List Char}, (∀ c ∈ part, isBlank c = true) → (∀ c ∈ part, c ∈ cs) →
      part = [] := by
    intro part hpart hmem
    refine List.eq_nil_iff_forall_not_mem.mpr fun c hc => ?_
    have hno := h c (hmem c hc)
    rw [hpart c hc] at hno
    cases hno
  have hl : lead = [] := hnone hlead fun c hc => by rw [hcs]; simp [hc]
  have ht : trail = [] := hnone htrail fun c hc => by rw [hcs]; simp [hc]
  rw [hl, ht, List.nil_append, List.append_nil] at hcs
  exact hcs.symm

/-- Trimming takes a line feed off the end. -/
theorem trim_append_lineFeed (cs : List Char) : trim (cs ++ ['\n']) = trim cs :=
  trim_concat (by decide) cs

/-- Trimming leaves the number of a character that is no blank. -/
theorem count_trim {c : Char} (hc : isBlank c = false) (cs : List Char) :
    (trim cs).count c = cs.count c := by
  obtain ⟨lead, trail, hlead, htrail, hcs⟩ := exists_trim cs
  have hnone : ∀ {blanks : List Char}, (∀ d ∈ blanks, isBlank d = true) → blanks.count c = 0 := by
    intro blanks h
    refine List.count_eq_zero.mpr fun hmem => ?_
    rw [h c hmem] at hc
    cases hc
  conv => rhs; rw [hcs]
  rw [List.count_append, List.count_append, hnone hlead, hnone htrail, Nat.zero_add, Nat.add_zero]

/-- **Parts that are trimmed do not change when the whole is trimmed first.** -/
theorem map_trim_splitAt_trim {separator : Char} (hs : isBlank separator = false)
    (cs : List Char) :
    (splitAt separator (trim cs)).map trim = (splitAt separator cs).map trim := by
  have hnone : ∀ {blanks : List Char}, (∀ c ∈ blanks, isBlank c = true) → separator ∉ blanks := by
    intro blanks h hmem
    rw [h separator hmem] at hs
    cases hs
  obtain ⟨lead, trail, hlead, htrail, hcs⟩ := exists_trim cs
  -- The blanks before the text join its first part,
  have hfirst : ∀ mid, (splitAt separator (lead ++ mid)).map trim =
      (splitAt separator mid).map trim := by
    intro mid
    cases hparts : splitAt separator mid with
    | nil => exact absurd hparts (splitAt_ne_nil separator mid)
    | cons part parts =>
        have hlone : splitAt separator lead = [] ++ [lead] :=
          splitAt_of_not_mem lead (hnone hlead)
        rw [splitAt_append separator mid hparts lead hlone, List.nil_append, List.map_cons,
          List.map_cons, trim_append_left_of_blank hlead]
  -- and those behind it its last one.
  have hlast : (splitAt separator (trim cs ++ trail)).map trim =
      (splitAt separator (trim cs)).map trim := by
    have hlone : splitAt separator trail = [trail] := splitAt_of_not_mem trail (hnone htrail)
    rcases List.eq_nil_or_concat (splitAt separator (trim cs)) with h | ⟨done, last, hparts⟩
    · exact absurd h (splitAt_ne_nil separator (trim cs))
    · rw [List.concat_eq_append] at hparts
      rw [splitAt_append separator trail hlone (trim cs) hparts, hparts, List.map_append,
        List.map_append, List.map_singleton, List.map_singleton,
        trim_append_of_blank trail _ htrail]
  rw [← hlast, ← hfirst, ← List.append_assoc, ← hcs]

end Fanout.Text
