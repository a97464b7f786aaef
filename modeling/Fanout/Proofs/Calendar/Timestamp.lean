/-
  Fanout.Proofs.Calendar.Timestamp
  ────────────────────────────────
  **Points in time are read back from their texts, leap seconds excepted.**

  The text of a point in time is a timestamp but for the `Z` at its end.
  Reading it takes the parts off one by one:

    • `takeShort?_padZeros`, `takeYear?_yearText` — a number of two places
      and a year of any size are read back, whatever follows them,
    • `takeFraction?_microsText` — so are microseconds, as long as there are
      less than a million; a million or more have a seventh digit, and
      count for a tenth,
    • `readTimestamp?_dateTimeText` — the whole text gives its parts.

  What is left is whether the parts make the point they came from.  A leap
  second has a million microseconds or more, so it does not survive
  (`ofClock?_readBack_iff`).
-/
import Fanout.Expr.Call
import Fanout.Proofs.Calendar.DayNumber
import Fanout.Proofs.Text
import Fanout.Proofs.Value

namespace Fanout.Calendar

open Fanout.Number Fanout.Text

/-! ## §1. Numbers in a timestamp. -/

/-- No digit follows. -/
def Stops (rest : List Char) : Prop := ∀ c, rest.head? = some c → c.isDigit = false

theorem stops_cons {c : Char} (hc : c.isDigit = false) (rest : List Char) : Stops (c :: rest) := by
  intro d hd
  cases hd
  exact hc

variable {ds rest : List Char}

/-- A part of what does not begin with a digit does not begin with one. -/
theorem Stops.take (hrest : Stops rest) (n : Nat) : Stops (rest.take n) := by
  intro c hc
  cases n with
  | zero => cases hc
  | succ n =>
      rw [List.head?_take, if_neg (Nat.succ_ne_zero n)] at hc
      exact hrest c hc

/-- Of digits that stop, those up to the width count. -/
theorem takeWhile_isDigit_take (width : Nat) (hds : ∀ c ∈ ds, c.isDigit = true)
    (hrest : Stops rest) :
    ((ds ++ rest).take width).takeWhile Char.isDigit = ds.take width := by
  rw [List.take_append]
  exact (takeWhile_append_of_stop (fun c hc => hds c (List.mem_of_mem_take hc)) (hrest.take _)).1

/-- Digits are read up to where they stop. -/
theorem takeDigits?_append {width : Nat} (hne : ds ≠ []) (hds : ∀ c ∈ ds, c.isDigit = true)
    (hwidth : ds.length ≤ width) (hrest : Stops rest) :
    takeDigits? width (ds ++ rest) = some (digitsValue ds, rest) := by
  have hread : ((ds ++ rest).take width).takeWhile Char.isDigit = ds := by
    rw [takeWhile_isDigit_take width hds hrest, List.take_of_length_le hwidth]
  unfold takeDigits?
  simp only [hread, List.isEmpty_eq_false_iff.mpr hne, List.drop_left, Bool.false_eq_true,
    if_false]

/-- A number that is filled up is read back when its digits fit. -/
theorem takeDigits?_padZeros {width places n : Nat} (hwidth : (padZeros places n).length ≤ width)
    (hrest : Stops rest) : takeDigits? width (padZeros places n ++ rest) = some (n, rest) := by
  rw [takeDigits?_append (padZeros_ne_nil places n) (fun c => isDigit_of_mem_padZeros) hwidth
    hrest, digitsValue_padZeros]

/-! ## §2. Years and other parts. -/

/-- No blanks stand before a digit. -/
theorem trimLeft_of_isDigit {c : Char} (hc : c.isDigit = true) (cs : List Char) :
    trimLeft (c :: cs) = c :: cs := by
  change (decide (48 ≤ c.val) && decide (c.val ≤ 57)) = true at hc
  simp only [Bool.and_eq_true, decide_eq_true_eq, UInt32.le_iff_toNat_le] at hc
  change 48 ≤ c.toNat ∧ c.toNat ≤ 57 at hc
  exact List.dropWhile_cons_of_neg (by rw [isBlank_of_printed (by omega) (by omega)]; decide)

/-- A filled up number begins with a digit. -/
theorem exists_padZeros_eq_cons (width n : Nat) :
    ∃ c ds, padZeros width n = c :: ds ∧ c.isDigit = true := by
  obtain ⟨c, ds, h⟩ := List.exists_cons_of_ne_nil (padZeros_ne_nil width n)
  have hmem : c ∈ padZeros width n := h ▸ List.mem_cons_self
  exact ⟨c, ds, h, isDigit_of_mem_padZeros hmem⟩

/-- A number of two places is read back. -/
theorem takeShort?_padZeros {n : Nat} (hn : n < 100) (hrest : Stops rest) :
    takeShort? (padZeros 2 n ++ rest) = some (n, rest) := by
  have hread : takeDigits? 2 (padZeros 2 n ++ rest) = some (n, rest) :=
    takeDigits?_padZeros (Nat.le_of_eq (length_padZeros_of_lt (by decide) hn)) hrest
  obtain ⟨c, ds, h, hc⟩ := exists_padZeros_eq_cons 2 n
  rw [h, List.cons_append] at hread ⊢
  rw [takeShort?, trimLeft_of_isDigit hc]
  exact hread

/-- A year of at most four digits has no sign, any other one has. -/
theorem yearText_zeros (y : Int) :
    yearText .zeros y =
      if 0 ≤ y ∧ y < 10000 then padZeros 4 y.natAbs
      else (if y < 0 then '-' else '+') :: padZeros 4 y.natAbs := by
  unfold yearText filled padZeros
  split
  · rename_i h
    have hpos : ¬ y < 0 := by omega
    simp [hpos]
  · have hmissing (n : Nat) : 5 - (1 + n) = 4 - n := by omega
    split <;> simp [hmissing]

/-- A year that begins with a digit has at most four of them. -/
theorem takeYear?_of_isDigit {c : Char} {cs : List Char} (hc : c.isDigit = true) :
    takeYear? (c :: cs) = (takeDigits? 4 (c :: cs)).map fun (n, r) => ((n : Int), r) := by
  unfold takeYear?
  rw [trimLeft_of_isDigit hc]
  split
  · rename_i h
    cases h
    cases hc
  · rename_i h
    cases h
    cases hc
  · rfl

/-- A year is read back, whatever its size. -/
theorem takeYear?_yearText (y : Int) (hrest : Stops rest) :
    takeYear? (yearText .zeros y ++ rest) = some (y, rest) := by
  have hsigned : takeDigits? (padZeros 4 y.natAbs ++ rest).length (padZeros 4 y.natAbs ++ rest) =
      some (y.natAbs, rest) :=
    takeDigits?_padZeros (by rw [List.length_append]; exact Nat.le_add_right _ _) hrest
  rw [yearText_zeros]
  split
  next hshort =>
    have hfour : y.natAbs < tenTo 4 := by show y.natAbs < 10000; omega
    have hread : takeDigits? 4 (padZeros 4 y.natAbs ++ rest) = some (y.natAbs, rest) :=
      takeDigits?_padZeros (Nat.le_of_eq (length_padZeros_of_lt (by decide) hfour)) hrest
    obtain ⟨c, ds, h, hc⟩ := exists_padZeros_eq_cons 4 y.natAbs
    rw [h, List.cons_append] at hread ⊢
    rw [takeYear?_of_isDigit hc, hread]
    show some ((y.natAbs : Int), rest) = some (y, rest)
    rw [Int.natAbs_of_nonneg hshort.1]
  next =>
    split
    next hneg =>
      show (takeDigits? (padZeros 4 y.natAbs ++ rest).length (padZeros 4 y.natAbs ++ rest)).map
        (fun (n, r) => (-(n : Int), r)) = some (y, rest)
      rw [hsigned]
      show some (-(y.natAbs : Int), rest) = some (y, rest)
      rw [Int.ofNat_natAbs_of_nonpos (Int.le_of_lt hneg), Int.neg_neg]
    next hpos =>
      show (takeDigits? (padZeros 4 y.natAbs ++ rest).length (padZeros 4 y.natAbs ++ rest)).map
        (fun (n, r) => ((n : Int), r)) = some (y, rest)
      rw [hsigned]
      show some ((y.natAbs : Int), rest) = some (y, rest)
      rw [Int.natAbs_of_nonneg (Int.not_lt.mp hpos)]

/-! ## §3. Fractions of a second. -/

/-- The nanoseconds that the text of some microseconds is read back as. -/
def readBack (micros : Nat) : Nat := if micros < 1000000 then micros * 1000 else micros * 100

/-- The digits of a fraction have six places, or seven from a million on. -/
theorem length_padZeros_micros {m : Nat} (hm : m < 2000000) :
    (padZeros 6 m).length = if m < 1000000 then 6 else 7 := by
  split
  next h => exact length_padZeros_of_lt (by decide) h
  next h =>
    have hle : (digitsOf m).length ≤ 7 :=
      (Nat.length_toDigits_le_iff (by decide) (by decide)).mpr (by omega)
    have hgt : ¬ (digitsOf m).length ≤ 6 := fun h6 =>
      h ((Nat.length_toDigits_le_iff (by decide) (by decide)).mp h6)
    rw [length_padZeros]
    omega

/-- A fraction is read back as so many nanoseconds. -/
theorem takeFraction?_microsText {m : Nat} (hm : m < 2000000) :
    takeFraction? (microsText m ++ ['Z']) = some (readBack m, ['Z']) := by
  have hstops : Stops ['Z'] := stops_cons (by decide) []
  have hdigits : ∀ c ∈ padZeros 6 m, c.isDigit = true := fun c => isDigit_of_mem_padZeros
  have hlength := length_padZeros_micros hm
  unfold microsText
  split
  next hzero => rw [hzero]; rfl
  next hpos =>
    have hread : ((padZeros 6 m ++ ['Z']).take 9).takeWhile Char.isDigit = padZeros 6 m := by
      rw [takeWhile_isDigit_take 9 hdigits hstops]
      exact List.take_of_length_le (by rw [hlength]; split <;> decide)
    have hdrop : (padZeros 6 m ++ ['Z']).dropWhile Char.isDigit = ['Z'] := by
      rw [List.dropWhile_append_of_pos hdigits]
      rfl
    have hunit : m * tenTo (9 - (padZeros 6 m).length) = readBack m := by
      rw [hlength]
      unfold readBack
      split <;> rfl
    rw [List.cons_append]
    simp only [takeFraction?, hread, hdrop, List.isEmpty_eq_false_iff.mpr (padZeros_ne_nil 6 m),
      digitsValue_padZeros, hunit, Bool.false_eq_true, if_false]

/-! ## §4. The parts of a point in time. -/

theorem monthLengths_le : ∀ leap, ∀ n ∈ monthLengths leap, n ≤ 31 := by decide

/-- A month has at most 31 days. -/
theorem daysInMonth_le (year : Int) (month : Nat) : daysInMonth year month ≤ 31 := by
  unfold daysInMonth
  split
  · decide
  · rw [List.getD_eq_getElem?_getD]
    cases h : (monthLengths (isLeapYear year))[month - 1]? with
    | none => decide
    | some n => exact monthLengths_le _ n (List.mem_of_getElem? h)

theorem Date.day_le (d : Date) : d.day ≤ 31 :=
  Nat.le_trans d.isDate.2.2.2 (daysInMonth_le d.year d.month)

section

variable (t : DateTime)

theorem DateTime.hour_lt : t.hour < 24 := by
  have h : t.second < 86400 := t.second_lt
  unfold DateTime.hour
  omega

theorem DateTime.minute_lt : t.minute < 60 := Nat.mod_lt _ (by decide)

/-- Second 60 is the last one a clock shows. -/
theorem DateTime.shownSecond_le : t.shownSecond ≤ 60 := by
  have h : t.nano < 2000000000 := t.nano_lt
  unfold DateTime.shownSecond DateTime.secondOfMinute nanosPerSecond
  omega

theorem DateTime.micros_lt : t.micros < 2000000 := by
  have h : t.nano < 2000000000 := t.nano_lt
  unfold DateTime.micros
  omega

/-- A leap second is one of a million microseconds or more. -/
theorem DateTime.isLeapSecond_iff : t.isLeapSecond = true ↔ 1000000 ≤ t.micros := by
  unfold DateTime.isLeapSecond DateTime.micros nanosPerSecond
  rw [decide_eq_true_eq]
  omega

end

/-! ## §5. Whole texts. -/

/-- The text of a point in time gives its parts, the fraction read as `readBack` says. -/
theorem readTimestamp?_dateTimeText (t : DateTime) :
    readTimestamp? (dateTimeText 'T' t ++ ['Z']) =
      ofClock? t.date.year t.date.month t.date.day t.hour t.minute t.shownSecond
        (readBack t.micros) := by
  have hmonth : t.date.month < 100 :=
    Nat.lt_of_le_of_lt (month_mem_of_isDate t.date.isDate).2 (by decide)
  have hday : t.date.day < 100 := Nat.lt_of_le_of_lt t.date.day_le (by decide)
  have hhour : t.hour < 100 := Nat.lt_trans t.hour_lt (by decide)
  have hminute : t.minute < 100 := Nat.lt_trans t.minute_lt (by decide)
  have hsecond : t.shownSecond < 100 := Nat.lt_of_le_of_lt t.shownSecond_le (by decide)
  have hdash (cs : List Char) : Stops ('-' :: cs) := stops_cons (by decide) cs
  have hcolon (cs : List Char) : Stops (':' :: cs) := stops_cons (by decide) cs
  have hmark (cs : List Char) : Stops ('T' :: cs) := stops_cons (by decide) cs
  have hfraction : Stops (microsText t.micros ++ ['Z']) := by
    unfold microsText
    split
    · exact stops_cons (by decide) []
    · exact stops_cons (by decide) _
  -- Each part stops at the mark behind it, and the next one is read from there.
  simp only [readTimestamp?, dateTimeText, dateText, clockText, List.append_assoc,
    List.cons_append, takeYear?_yearText _ (hdash _), takeShort?_padZeros hmonth (hdash _),
    takeShort?_padZeros hday (hmark _), takeShort?_padZeros hhour (hcolon _),
    takeShort?_padZeros hminute (hcolon _), takeShort?_padZeros hsecond hfraction,
    takeFraction?_microsText t.micros_lt, takeChar?, Option.bind_eq_bind, Option.bind_some,
    List.isEmpty_nil, if_true]

/-! ## §6. From the parts to the point. -/

theorem DateTime.of?_eq_some_iff {date : Date} {second nano : Nat} {t : DateTime} :
    DateTime.of? date second nano = some t ↔
      date = t.date ∧ second = t.second ∧ nano = t.nano := by
  unfold DateTime.of?
  constructor
  · intro h
    split at h
    · cases h
      exact ⟨rfl, rfl, rfl⟩
    · cases h
  · rintro ⟨rfl, rfl, rfl⟩
    rw [dif_pos ⟨t.second_lt, t.nano_lt⟩]

/-- A day and a clock always make a point in time, if the fraction does. -/
theorem ofClock?_date (date : Date) {hour minute second : Nat} (hhour : hour < 24)
    (hminute : minute < 60) (hsecond : second ≤ 60) (nano : Nat) :
    ofClock? date.year date.month date.day hour minute second nano =
      if second = 60 then DateTime.of? date (hour * 3600 + minute * 60 + 59) (nano + nanosPerSecond)
      else DateTime.of? date (hour * 3600 + minute * 60 + second) nano := by
  have hdate : Date.of? date.year date.month date.day = some date := dif_pos date.isDate
  unfold ofClock?
  rw [hdate]
  exact if_neg (by omega)

/-- The parts of a point in time with whole microseconds make that point again, unless it
is a leap second: its fraction is a tenth of what it should be. -/
theorem ofClock?_readBack_iff {t : DateTime} (hwhole : t.nano % 1000 = 0) :
    ofClock? t.date.year t.date.month t.date.day t.hour t.minute t.shownSecond
        (readBack t.micros) = some t ↔ t.isLeapSecond = false := by
  have hmicros : t.nano = t.micros * 1000 := by
    unfold DateTime.micros
    omega
  have hclock : t.second = t.hour * 3600 + t.minute * 60 + t.secondOfMinute := by
    unfold DateTime.hour DateTime.minute DateTime.secondOfMinute
    omega
  rw [ofClock?_date t.date t.hour_lt t.minute_lt t.shownSecond_le]
  cases hleap : t.isLeapSecond with
  | true =>
      have hmany : 1000000 ≤ t.micros := t.isLeapSecond_iff.mp hleap
      have hback : readBack t.micros = t.micros * 100 := if_neg (Nat.not_lt.mpr hmany)
      refine iff_of_false (fun h => ?_) (by decide)
      split at h
      · -- No multiple of 900 is the nanoseconds of a second.
        have hnano := (DateTime.of?_eq_some_iff.mp h).2.2
        unfold nanosPerSecond at hnano
        omega
      · have hnano := (DateTime.of?_eq_some_iff.mp h).2.2
        omega
  | false =>
      have hfew : t.micros < 1000000 := by
        refine Nat.lt_of_not_le fun hmany => ?_
        rw [t.isLeapSecond_iff.mpr hmany] at hleap
        cases hleap
      have hback : readBack t.micros = t.micros * 1000 := if_pos hfew
      have hshown : t.shownSecond = t.secondOfMinute := by
        unfold DateTime.shownSecond nanosPerSecond
        omega
      have hsixty : t.secondOfMinute < 60 := Nat.mod_lt _ (by decide)
      refine iff_of_true ?_ rfl
      rw [hshown, if_neg (Nat.ne_of_lt hsixty)]
      exact DateTime.of?_eq_some_iff.mpr ⟨rfl, hclock.symm, by rw [hback, hmicros]⟩

end Fanout.Calendar

namespace Fanout.Expr

open Fanout.Calendar Fanout.Number

/-! ## §7. Timestamps as texts of expressions. -/

theorem readTimestamp_eq_ok_iff {text : String} {t : DateTime} :
    readTimestamp text = .ok t ↔ readTimestamp? (unquoted text).toList = some t := by
  unfold readTimestamp
  cases h : readTimestamp? (unquoted text).toList with
  | none => simp [h]
  | some u => simp [h]

/-- The text of a point in time begins with no quote. -/
theorem unquoted_dateTimeText (t : DateTime) (rest : List Char) :
    unquoted (String.ofList (dateTimeText 'T' t ++ rest)) =
      String.ofList (dateTimeText 'T' t ++ rest) := by
  refine unquoted_of_head? fun h => ?_
  obtain ⟨c, ds, hdigits, hc⟩ := exists_padZeros_eq_cons 4 t.date.year.natAbs
  rw [String.toList_ofList, dateTimeText, dateText, yearText_zeros, hdigits] at h
  split at h
  · cases h
    cases hc
  · split at h
    · cases h
    · cases h

/-- **A point in time with whole microseconds is read back from its text exactly if it is no
leap second, within quotes or without; and its microseconds are less than a million exactly
then.**  This is about every point, whether or not a text is read as it. -/
theorem readTimestamp_isoformat_iff {t : DateTime} (hwhole : t.nano % 1000 = 0) :
    ∃ text, callMethod (.dateTime t) "isoformat" [] = .ok (.str text) ∧
      (readTimestamp (text ++ "Z") = .ok t ↔ t.isLeapSecond = false) ∧
      (readTimestamp ("\"" ++ (text ++ "Z") ++ "\"") = .ok t ↔ t.isLeapSecond = false) ∧
      ∃ m : Int64, attributeOf (.dateTime t) "microsecond" = .ok (.int m) ∧
        (0 ≤ m.toInt ∧ m.toInt ≤ 999999 ↔ t.isLeapSecond = false) := by
  have hread : readTimestamp? (dateTimeText 'T' t ++ ['Z']) = some t ↔ t.isLeapSecond = false := by
    rw [readTimestamp?_dateTimeText]
    exact ofClock?_readBack_iff hwhole
  have htext : String.ofList (dateTimeText 'T' t) ++ "Z" =
      String.ofList (dateTimeText 'T' t ++ ['Z']) := String.ofList_append.symm
  have hmicros : (Int64.ofInt t.micros).toInt = t.micros := by
    have := t.micros_lt
    exact Int64.toInt_ofInt_of_le (by omega) (by omega)
  refine ⟨String.ofList (dateTimeText 'T' t), rfl, ?_, ?_, Int64.ofInt t.micros, rfl, ?_⟩
  · rw [readTimestamp_eq_ok_iff, htext, unquoted_dateTimeText, String.toList_ofList]
    exact hread
  · rw [readTimestamp_eq_ok_iff, unquoted_inQuotes, htext, String.toList_ofList]
    exact hread
  · rw [hmicros, ← Bool.not_eq_true, t.isLeapSecond_iff]
    omega

/-- The leap second at the end of 2016. -/
def leapOf2016 : DateTime :=
  ⟨⟨2016, 12, 31, by decide⟩, 86399, 1000000000, by decide, by decide⟩

/-- The leap second at the end of 2016 can be read, but not from its own text. -/
theorem not_readTimestamp_isoformat_leapOf2016 :
    readTimestamp "2016-12-31T23:59:60Z" = .ok leapOf2016 ∧ leapOf2016.nano % 1000 = 0 ∧
      ∃ text, callMethod (.dateTime leapOf2016) "isoformat" [] = .ok (.str text) ∧
        readTimestamp (text ++ "Z") ≠ .ok leapOf2016 ∧
        readTimestamp ("\"" ++ (text ++ "Z") ++ "\"") ≠ .ok leapOf2016 ∧
        ∃ m : Int64, attributeOf (.dateTime leapOf2016) "microsecond" = .ok (.int m) ∧
          ¬(0 ≤ m.toInt ∧ m.toInt ≤ 999999) := by
  have hleap : leapOf2016.isLeapSecond ≠ false := by decide
  obtain ⟨text, htext, hbare, hquoted, m, hm, hrange⟩ :=
    readTimestamp_isoformat_iff (t := leapOf2016) rfl
  exact ⟨rfl, rfl, text, htext, fun h => hleap (hbare.mp h), fun h => hleap (hquoted.mp h),
    m, hm, fun h => hleap (hrange.mp h)⟩

end Fanout.Expr
