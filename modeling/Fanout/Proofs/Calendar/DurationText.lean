/-
  Fanout.Proofs.Calendar.DurationText
  ───────────────────────────────────
  **What a duration shows.**

  A duration shows a number of microseconds: its own, as long as 64 bits
  hold them, and otherwise the greatest that they hold.  Attributes and text
  split it into the same days, seconds and microseconds, of which only the
  days can be negative:

    • `Duration.shown_eq` — what is shown,
    • `DurationParts.Normal.eq_of_total` — parts are told by what they make up,
    • `shows_durationText`, `DurationParts.Shows.eq` — the text is that of the
      parts, and of no others,
    • `presents_parts` — the attributes are the parts, and the text is theirs,
    • `timeBetween_shown` — the time between two points shows as it is up to
      2⁶³ microseconds, and from there on as the greatest of them, even when
      it is negative.
-/
import Fanout.Expr.Call
import Fanout.Proofs.Calendar.Instant
import Fanout.Proofs.Number.Digits
import Fanout.Proofs.Text

namespace Fanout.Calendar

open Fanout.Number Fanout.Text

/-! ## §1. Days, seconds and microseconds. -/

namespace DurationParts

variable {p q : DurationParts}

/-- The microseconds that the parts make up. -/
def total (p : DurationParts) : Int := (p.days * 86400 + p.seconds) * 1000000 + p.micros

/-- The seconds make less than a day and the microseconds less than a second, neither of them
negative. -/
structure Normal (p : DurationParts) : Prop where
  /-- The seconds are not negative. -/
  seconds_nonneg : 0 ≤ p.seconds
  /-- They make less than a day. -/
  seconds_le : p.seconds ≤ 86399
  /-- The microseconds are not negative. -/
  micros_nonneg : 0 ≤ p.micros
  /-- They make less than a second. -/
  micros_le : p.micros ≤ 999999

theorem normal_ofMicros (n : Int) : (ofMicros n).Normal := by
  unfold ofMicros microsPerDay
  constructor
  · show 0 ≤ n % (86400 * 1000000) / 1000000
    omega
  · show n % (86400 * 1000000) / 1000000 ≤ 86399
    omega
  · show 0 ≤ n % (86400 * 1000000) % 1000000
    omega
  · show n % (86400 * 1000000) % 1000000 ≤ 999999
    omega

theorem total_ofMicros (n : Int) : (ofMicros n).total = n := by
  show (n / (86400 * 1000000) * 86400 + n % (86400 * 1000000) / 1000000) * 1000000 +
    n % (86400 * 1000000) % 1000000 = n
  omega

/-- **Parts are told by the microseconds that they make up.** -/
theorem Normal.eq_of_total (hp : p.Normal) (hq : q.Normal) (h : p.total = q.total) : p = q := by
  obtain ⟨hps, hps', hpm, hpm'⟩ := hp
  obtain ⟨hqs, hqs', hqm, hqm'⟩ := hq
  unfold total at h
  have hmicros : p.micros = q.micros := by omega
  have hseconds : p.seconds = q.seconds := by omega
  have hdays : p.days = q.days := by omega
  cases p
  cases q
  simp only [mk.injEq]
  exact ⟨hdays, hseconds, hmicros⟩

end DurationParts

/-- Do 64 bits hold the microseconds of a duration? -/
def Duration.FitsMicros (d : Duration) : Prop :=
  minWord ≤ d.total.tdiv 1000 ∧ d.total.tdiv 1000 ≤ maxWord

/-- Whether they do can be decided. -/
instance (d : Duration) : Decidable d.FitsMicros := by
  unfold Duration.FitsMicros
  infer_instance

/-- The microseconds that a duration shows. -/
def Duration.shown (d : Duration) : Int := (d.micros?.map Int64.toInt).getD maxWord

/-- **A duration shows its microseconds where 64 bits hold them, and the greatest number of them
otherwise.** -/
theorem Duration.shown_eq (d : Duration) :
    d.shown = if d.FitsMicros then d.total.tdiv 1000 else maxWord := by
  by_cases h : d.FitsMicros
  · obtain ⟨hlow, hhigh⟩ := h
    have hexact : (Int64.ofInt (d.total.tdiv 1000)).toInt = d.total.tdiv 1000 := by
      unfold minWord at hlow
      unfold maxWord at hhigh
      exact Int64.toInt_ofInt_of_le (by omega) (by omega)
    rw [if_pos ⟨hlow, hhigh⟩]
    unfold shown micros? narrow?
    rw [if_pos ⟨hlow, hhigh⟩]
    exact hexact
  · have hout : ¬ (minWord ≤ d.total.tdiv 1000 ∧ d.total.tdiv 1000 ≤ maxWord) := h
    rw [if_neg h]
    unfold shown micros? narrow?
    rw [if_neg hout]
    rfl

theorem Duration.shown_mem (d : Duration) : minWord ≤ d.shown ∧ d.shown ≤ maxWord := by
  rw [shown_eq]
  split
  next h => exact h
  next => exact ⟨by decide, Int.le_refl _⟩

/-- The parts of a duration are those of what it shows. -/
theorem Duration.total_parts (d : Duration) : d.parts.total = d.shown :=
  DurationParts.total_ofMicros d.shown

theorem Duration.normal_parts (d : Duration) : d.parts.Normal :=
  DurationParts.normal_ofMicros d.shown

/-! ## §2. The text of the parts. -/

namespace DurationParts

/-- What stands for a number of days: the number and a word, or nothing. -/
inductive DaysShown : Int → List Char → Prop where
  /-- No days are not mentioned. -/
  | none : DaysShown 0 []
  /-- One day, forwards or backwards. -/
  | one {n : Int} (single : n.natAbs = 1) : DaysShown n (intDigits n ++ " day, ".toList)
  /-- Several days. -/
  | many {n : Int} (several : 2 ≤ n.natAbs) : DaysShown n (intDigits n ++ " days, ".toList)

/-- What stands for the seconds of a day: hours, and minutes and seconds of two digits. -/
inductive ClockShown : Int → List Char → Prop where
  /-- A time of the day. -/
  | clock (hour minute second : Nat) (minute_lt : minute < 60) (second_lt : second < 60) :
    ClockShown (hour * 3600 + minute * 60 + second)
      (digitsOf hour ++ ':' :: (padZeros 2 minute ++ ':' :: padZeros 2 second))

/-- What stands for the microseconds of a second: six digits behind a point, or nothing. -/
inductive MicrosShown : Int → List Char → Prop where
  /-- No microseconds are not mentioned. -/
  | none : MicrosShown 0 []
  /-- A number of microseconds. -/
  | some (n : Nat) (pos : 0 < n) (lt : n < 1000000) : MicrosShown n ('.' :: padZeros 6 n)

/-- The text is made of what stands for the parts. -/
def Shows (p : DurationParts) (text : List Char) : Prop :=
  ∃ days clock micros, DaysShown p.days days ∧ ClockShown p.seconds clock ∧
    MicrosShown p.micros micros ∧ text = days ++ (clock ++ micros)

variable {p q : DurationParts} {n m : Int} {text before before' behind behind' : List Char}

/-- **The text of a duration is that of its parts.** -/
theorem shows_durationText (hp : p.Normal) : p.Shows (durationText p) := by
  obtain ⟨hseconds, hday, hmicros, hsecond⟩ := hp
  have hclock : ClockShown p.seconds (intDigits (p.seconds / 3600) ++
      ':' :: (padZeros 2 (p.seconds / 60 % 60).toNat ++ ':' :: padZeros 2 (p.seconds % 60).toNat)) := by
    have hsum : p.seconds = ((p.seconds / 3600).natAbs * 3600 + (p.seconds / 60 % 60).toNat * 60 +
        (p.seconds % 60).toNat : Int) := by omega
    rw [intDigits, if_neg (by omega)]
    conv => lhs; rw [hsum]
    exact .clock _ _ _ (by omega) (by omega)
  have hfraction : MicrosShown p.micros (microsText p.micros.toNat) := by
    unfold microsText
    by_cases hzero : p.micros = 0
    · rw [hzero]
      exact .none
    · rw [if_neg (by omega)]
      have hnat : p.micros = (p.micros.toNat : Int) := by omega
      conv => lhs; rw [hnat]
      exact .some _ (by omega) (by omega)
  unfold durationText
  dsimp only
  by_cases hnone : p.days = 0
  · rw [if_pos hnone]
    exact ⟨[], _, _, hnone ▸ .none, hclock, hfraction, rfl⟩
  · rw [if_neg hnone]
    by_cases hone : p.days = 1 ∨ p.days = -1
    · rw [if_pos hone]
      exact ⟨_, _, _, .one (by omega), hclock, hfraction, rfl⟩
    · rw [if_neg hone]
      exact ⟨_, _, _, .many (by omega), hclock, hfraction, rfl⟩

/-! ## §3. The parts of a text. -/

/-- There is no blank in a clock. -/
theorem ClockShown.blank_notMem (h : ClockShown n text) : ' ' ∉ text := by
  obtain ⟨hour, minute, second, -, -⟩ := h
  have hdigits : ∀ width k, ' ' ∉ padZeros width k := fun width k hmem =>
    absurd (isDigit_of_mem_padZeros hmem) (by decide)
  simp [not_mem_digitsOf (show ' '.isDigit = false from rfl), hdigits]

theorem MicrosShown.blank_notMem (h : MicrosShown n text) : ' ' ∉ text := by
  cases h with
  | none => exact List.not_mem_nil
  | some n pos lt =>
      have hdigits : ' ' ∉ padZeros 6 n := fun hmem =>
        absurd (isDigit_of_mem_padZeros hmem) (by decide)
      simp [hdigits]

/-- Days are none, or stand in front of the first blank. -/
theorem DaysShown.cases_blank (h : DaysShown n before) : n = 0 ∧ before = [] ∨
    ' ' ∉ intDigits n ∧ before = intDigits n ++
      ' ' :: (if n.natAbs = 1 then "day, ".toList else "days, ".toList) := by
  have hdigits : ' ' ∉ intDigits n := by
    unfold intDigits
    split <;> simp [not_mem_digitsOf (show ' '.isDigit = false from rfl)]
  cases h with
  | none => exact .inl ⟨rfl, rfl⟩
  | one single => exact .inr ⟨hdigits, by rw [if_pos single]; rfl⟩
  | many several => exact .inr ⟨hdigits, by rw [if_neg (by omega)]; rfl⟩

/-- **Days are told from a text** in which no other blank follows. -/
theorem DaysShown.inj (h : DaysShown n before) (h' : DaysShown m before')
    (hblank : ' ' ∉ behind) (hblank' : ' ' ∉ behind')
    (heq : before ++ behind = before' ++ behind') : n = m ∧ behind = behind' := by
  rcases h.cases_blank with ⟨rfl, rfl⟩ | ⟨hn, rfl⟩
  · rcases h'.cases_blank with ⟨rfl, rfl⟩ | ⟨hm, rfl⟩
    · exact ⟨rfl, heq⟩
    · -- Only the right side has a blank.
      refine absurd ?_ hblank
      rw [List.nil_append] at heq
      rw [heq]
      exact List.mem_append_left _ (List.mem_append_right _ List.mem_cons_self)
  · rcases h'.cases_blank with ⟨rfl, rfl⟩ | ⟨hm, rfl⟩
    · refine absurd ?_ hblank'
      rw [List.nil_append] at heq
      rw [← heq]
      exact List.mem_append_left _ (List.mem_append_right _ List.mem_cons_self)
    · rw [List.append_assoc, List.append_assoc, List.cons_append, List.cons_append] at heq
      obtain ⟨hdigits, hrest⟩ := append_cons_inj hn hm heq
      have hnumber := intDigits_injective hdigits
      subst hnumber
      exact ⟨rfl, List.append_cancel_left hrest⟩

/-- **So is the time of the day**, in front of anything. -/
theorem ClockShown.inj (h : ClockShown n before) (h' : ClockShown m before')
    (heq : before ++ behind = before' ++ behind') : n = m ∧ behind = behind' := by
  obtain ⟨hour, minute, second, hminute, hsecond⟩ := h
  obtain ⟨hour', minute', second', hminute', hsecond'⟩ := h'
  have hcolon : ∀ k, ':' ∉ digitsOf k := not_mem_digitsOf rfl
  have hwidth : ∀ {k}, k < 60 → (padZeros 2 k).length = 2 := fun {k} hk =>
    length_padZeros_of_lt (by decide) (Nat.lt_trans hk (by decide))
  have hvalue : ∀ {j k}, padZeros 2 j = padZeros 2 k → j = k := fun {j k} hjk => by
    rw [← digitsValue_padZeros 2 j, hjk, digitsValue_padZeros]
  simp only [List.append_assoc, List.cons_append] at heq
  obtain ⟨hhours, heq⟩ := append_cons_inj (hcolon hour) (hcolon hour') heq
  obtain ⟨hminutes, heq⟩ := List.append_inj heq (by rw [hwidth hminute, hwidth hminute'])
  obtain ⟨-, heq⟩ := List.cons.inj heq
  obtain ⟨hseconds, hbehind⟩ := List.append_inj heq (by rw [hwidth hsecond, hwidth hsecond'])
  rw [digitsOf_injective hhours, hvalue hminutes, hvalue hseconds]
  exact ⟨rfl, hbehind⟩

theorem MicrosShown.inj (h : MicrosShown n text) (h' : MicrosShown m text) : n = m := by
  cases h with
  | none =>
      cases h' with
      | none => rfl
  | some n pos lt =>
      generalize htext : '.' :: padZeros 6 n = text at h'
      cases h' with
      | none => cases htext
      | some m pos' lt' =>
          have hdigits := List.cons.inj htext
          rw [← digitsValue_padZeros 6 n, hdigits.2, digitsValue_padZeros]

/-- **A text is that of one triple of parts only.** -/
theorem Shows.eq (hp : p.Shows text) (hq : q.Shows text) : p = q := by
  obtain ⟨days, clock, micros, hdays, hclock, hmicros, rfl⟩ := hp
  obtain ⟨days', clock', micros', hdays', hclock', hmicros', heq⟩ := hq
  obtain ⟨hd, heq⟩ := hdays.inj hdays'
    (by simpa using ⟨hclock.blank_notMem, hmicros.blank_notMem⟩)
    (by simpa using ⟨hclock'.blank_notMem, hmicros'.blank_notMem⟩) heq
  obtain ⟨hs, rfl⟩ := hclock.inj hclock' heq
  have hm := hmicros.inj hmicros'
  cases p
  cases q
  simp only [mk.injEq]
  exact ⟨hd, hs, hm⟩

end DurationParts

end Fanout.Calendar

namespace Fanout.Expr

open Fanout.Calendar Fanout.Number

/-! ## §4. Attributes and texts in expressions. -/

/-- These are the attributes of a duration, and the text of the duration is theirs. -/
structure Presents (d : Duration) (p : DurationParts) : Prop where
  /-- The days are an attribute. -/
  days : ∃ n : Int64, attributeOf (.duration d) "days" = .ok (.int n) ∧ n.toInt = p.days
  /-- So are the seconds of the day. -/
  seconds : ∃ n : Int64, attributeOf (.duration d) "seconds" = .ok (.int n) ∧ n.toInt = p.seconds
  /-- So are the microseconds of the second. -/
  micros : ∃ n : Int64, attributeOf (.duration d) "microseconds" = .ok (.int n) ∧
    n.toInt = p.micros
  /-- The text is that of the three of them. -/
  text : ∃ text : String, callBuiltin .str [.duration d] = .ok (.str text) ∧ p.Shows text.toList

/-- **A duration presents the parts of what it shows.** -/
theorem presents_parts (d : Duration) : Presents d d.parts := by
  have hshown := d.shown_mem
  have htotal := d.total_parts
  obtain ⟨hseconds, hday, hmicros, hsecond⟩ := d.normal_parts
  unfold DurationParts.total at htotal
  unfold minWord maxWord at hshown
  constructor
  · exact ⟨Int64.ofInt d.parts.days, rfl, Int64.toInt_ofInt_of_le (by omega) (by omega)⟩
  · exact ⟨Int64.ofInt d.parts.seconds, rfl, Int64.toInt_ofInt_of_le (by omega) (by omega)⟩
  · exact ⟨Int64.ofInt d.parts.micros, rfl, Int64.toInt_ofInt_of_le (by omega) (by omega)⟩
  · refine ⟨_, rfl, ?_⟩
    show d.parts.Shows (String.ofList (durationText d.parts)).toList
    rw [String.toList_ofList]
    exact DurationParts.shows_durationText d.normal_parts

/-- The texts of two durations are the same exactly if they show the same. -/
theorem str_eq_str_iff {d e : Duration} :
    callBuiltin .str [.duration d] = callBuiltin .str [.duration e] ↔ d.shown = e.shown := by
  have htexts : callBuiltin .str [.duration d] = callBuiltin .str [.duration e] ↔
      durationText d.parts = durationText e.parts := by
    show Except.ok (Value.str (String.ofList (durationText d.parts))) =
      Except.ok (Value.str (String.ofList (durationText e.parts))) ↔ _
    rw [Except.ok.injEq, Value.str.injEq, String.ofList_inj]
  rw [htexts]
  constructor
  · intro h
    have hd := DurationParts.shows_durationText d.normal_parts
    rw [h] at hd
    rw [← d.total_parts, ← e.total_parts,
      hd.eq (DurationParts.shows_durationText e.normal_parts)]
  · intro h
    have hparts : d.parts = e.parts :=
      d.normal_parts.eq_of_total e.normal_parts (by rw [d.total_parts, e.total_parts, h])
    rw [hparts]

/-- **Text and attributes of a duration say the same, and say what it is.**  Every duration
presents days, seconds of a day and microseconds of a second; and where 64 bits hold the
microseconds of two durations, their texts are the same exactly if these are. -/
theorem duration_text_of_attributes :
    (∀ d : Duration, ∃ p : DurationParts, p.Normal ∧ Presents d p) ∧
    ∀ d e : Duration, d.FitsMicros → e.FitsMicros →
      (callBuiltin .str [.duration d] = callBuiltin .str [.duration e] ↔
        d.total.tdiv 1000 = e.total.tdiv 1000) := by
  constructor
  · intro d
    exact ⟨d.parts, d.normal_parts, presents_parts d⟩
  · intro d e hd he
    rw [str_eq_str_iff, d.shown_eq, e.shown_eq, if_pos hd, if_pos he]

/-- A second and 999 nanoseconds have the text of a second, a second and a microsecond have
another one. -/
theorem duration_text_of_attributes_second :
    callBuiltin .str [.duration ⟨1, 999, by decide⟩] =
        callBuiltin .str [.duration ⟨1, 0, by decide⟩] ∧
      callBuiltin .str [.duration ⟨1, 1000, by decide⟩] ≠
        callBuiltin .str [.duration ⟨1, 0, by decide⟩] := by
  have htexts := duration_text_of_attributes.2
  exact ⟨(htexts ⟨1, 999, by decide⟩ ⟨1, 0, by decide⟩ (by decide) (by decide)).mpr (by decide),
    fun h => absurd ((htexts ⟨1, 1000, by decide⟩ ⟨1, 0, by decide⟩ (by decide)
      (by decide)).mp h) (by decide)⟩

/-! ## §5. The time between two points. -/

/-- **The time between two points is exact, and shows as it is where 64 bits hold its
microseconds.**  Where they do not, it shows as the greatest number that they hold, whether it
leads forwards or backwards. -/
theorem timeBetween_shown {a b : DateTime} (ha : a.isLeapSecond = false)
    (hb : b.isLeapSecond = false) (hwhole : a.nano % 1000 = 0) (hwhole' : b.nano % 1000 = 0) :
    ∃ (d : Duration) (p : DurationParts) (between : Int),
      binaryOperation .sub (.dateTime a) (.dateTime b) = .ok (.duration d) ∧
      between * 1000 = a.instant - b.instant ∧ d.total = between * 1000 ∧
      a.order b = compare between 0 ∧ p.Normal ∧ Presents d p ∧
      (p.total = between ↔ minWord ≤ between ∧ between ≤ maxWord) ∧
      (¬(minWord ≤ between ∧ between ≤ maxWord) → p.total = maxWord) := by
  obtain ⟨d, hsub, htotal⟩ := DateTime.exists_sub ha hb
  obtain ⟨between, hbetween⟩ : ∃ between, between * 1000 = a.instant - b.instant := by
    refine ⟨(a.instant - b.instant) / 1000, ?_⟩
    rw [DateTime.instant_eq, DateTime.instant_eq]
    omega
  have horder : a.order b = compare between 0 := by
    rw [DateTime.order_eq ha hb]
    rcases lt_trichotomy a.instant b.instant with h | h | h
    · rw [compare_lt_iff_lt.mpr h, compare_lt_iff_lt.mpr (by omega)]
    · rw [compare_eq_iff_eq.mpr h, compare_eq_iff_eq.mpr (by omega)]
    · rw [compare_gt_iff_gt.mpr h, compare_gt_iff_gt.mpr (by omega)]
  have hmicros : d.total.tdiv 1000 = between := by
    rw [htotal, ← hbetween, Int.mul_tdiv_cancel between (by decide)]
  -- What is shown is the time between the points, or the greatest number.
  have hshown : d.parts.total =
      if minWord ≤ between ∧ between ≤ maxWord then between else maxWord := by
    rw [d.total_parts, d.shown_eq, ← hmicros]
    rfl
  refine ⟨d, d.parts, between, ?_, hbetween, htotal.trans hbetween.symm, horder, d.normal_parts,
    presents_parts d, ?_, ?_⟩
  · show newDuration (a.sub b) = _
    rw [hsub]
    rfl
  · rw [hshown]
    constructor
    · intro h
      split at h
      next hfits => exact hfits
      next =>
        rw [← h]
        decide
    · intro hfits
      rw [if_pos hfits]
  · intro hout
    rw [hshown, if_neg hout]

/-- The first moment of the year −200000. -/
def farPast : DateTime := .startOf ⟨-200000, 1, 1, by decide⟩

/-- The first moment of the year 200000. -/
def farFuture : DateTime := .startOf ⟨200000, 1, 1, by decide⟩

/-- From the year 200000 back to the year −200000 the time is negative, and shows as positive. -/
theorem timeBetween_shown_farPast :
    readTimestamp "-200000-01-01T00:00:00Z" = .ok farPast ∧
      readTimestamp "+200000-01-01T00:00:00Z" = .ok farFuture ∧
      ∃ (d : Duration) (p : DurationParts),
        binaryOperation .sub (.dateTime farPast) (.dateTime farFuture) = .ok (.duration d) ∧
        d.total = -146097000 * 86400 * 1000000000 ∧ Presents d p ∧ p.total = maxWord := by
  refine ⟨rfl, rfl, ?_⟩
  obtain ⟨d, p, between, hsub, hbetween, htotal, -, -, hpresents, -, hout⟩ :=
    timeBetween_shown (a := farPast) (b := farFuture) (by decide) (by decide) (by decide) (by decide)
  have hdifference : farPast.instant - farFuture.instant = -146097000 * 86400 * 1000000000 := by
    decide
  refine ⟨d, p, hsub, by omega, hpresents, hout fun hfits => ?_⟩
  unfold minWord maxWord at hfits
  omega

end Fanout.Expr
