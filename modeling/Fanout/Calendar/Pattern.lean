/-
  Fanout.Calendar.Pattern
  ───────────────────────
  **Writing points in time by a pattern.**

  A pattern is a text in which `%` introduces a *field*: a number such as
  the year or the minute, a name, or one of the short forms that stand for
  several fields.  A `-`, `0` or `_` after the `%` chooses how a number is
  filled up to its width; names and short forms admit none of them.  A
  pattern with an unknown field, or with a field of the time zone, which a
  point in time here does not have, is refused as a whole.
-/
import Fanout.Number.Numeral
import Fanout.Calendar.DateTime

namespace Fanout.Calendar

open Fanout.Number

/-! ## §1. Fields. -/

/-- What fills a number up to its width. -/
inductive Fill where
  /-- Nothing. -/
  | none
  /-- Zeros. -/
  | zeros
  /-- Blanks. -/
  | blanks
  deriving DecidableEq, Repr

/-- The fields that are numbers. -/
inductive NumberField where
  | year | century | yearOfCentury
  | weekYear | weekYearOfCentury | numberedWeek
  | quarter | month | day | dayOfYear
  | weekFromSunday | weekFromMonday | daysFromSunday | weekday
  | hour | hourOfHalf | minute | second | nano | epochSeconds
  deriving DecidableEq, Repr

/-- A piece of a pattern. -/
inductive PatternItem where
  /-- Text that stands for itself. -/
  | text (cs : List Char)
  /-- A number. -/
  | number (field : NumberField) (fill : Fill)
  /-- The name of the day of the week, in full or three letters of it. -/
  | weekdayName (full : Bool)
  /-- The name of the month, in full or three letters of it. -/
  | monthName (full : Bool)
  /-- The half of the day, in capitals or not. -/
  | halfOfDay (capitals : Bool)
  /-- The fraction of the second in three, six or nine digits, as many as it needs; nothing
  when there is none. -/
  | fraction
  /-- The first digits of the fraction, with or without a point. -/
  | digits (point : Bool) (count : Nat)
  deriving DecidableEq, Repr

/-! ## §2. Reading a pattern. -/

/-- Text that stands for itself. -/
def PatternItem.literal (s : String) : PatternItem := .text s.toList

/-- Month, day and year of the century. -/
def shortDate : List PatternItem :=
  [.number .month .zeros, .literal "/", .number .day .zeros, .literal "/",
    .number .yearOfCentury .zeros]

/-- Year, month and day. -/
def longDate : List PatternItem :=
  [.number .year .zeros, .literal "-", .number .month .zeros, .literal "-", .number .day .zeros]

/-- Hour and minute. -/
def shortTime : List PatternItem :=
  [.number .hour .zeros, .literal ":", .number .minute .zeros]

/-- Hour, minute and second. -/
def longTime : List PatternItem := shortTime ++ [.literal ":", .number .second .zeros]

/-- The items that one letter after the `%` stands for. -/
def itemsOf? : Char → Option (List PatternItem)
  | 'Y' => some [.number .year .zeros]
  | 'C' => some [.number .century .zeros]
  | 'y' => some [.number .yearOfCentury .zeros]
  | 'G' => some [.number .weekYear .zeros]
  | 'g' => some [.number .weekYearOfCentury .zeros]
  | 'V' => some [.number .numberedWeek .zeros]
  | 'q' => some [.number .quarter .none]
  | 'm' => some [.number .month .zeros]
  | 'd' => some [.number .day .zeros]
  | 'e' => some [.number .day .blanks]
  | 'j' => some [.number .dayOfYear .zeros]
  | 'U' => some [.number .weekFromSunday .zeros]
  | 'W' => some [.number .weekFromMonday .zeros]
  | 'w' => some [.number .daysFromSunday .none]
  | 'u' => some [.number .weekday .none]
  | 'H' => some [.number .hour .zeros]
  | 'k' => some [.number .hour .blanks]
  | 'I' => some [.number .hourOfHalf .zeros]
  | 'l' => some [.number .hourOfHalf .blanks]
  | 'M' => some [.number .minute .zeros]
  | 'S' => some [.number .second .zeros]
  | 'f' => some [.number .nano .zeros]
  | 's' => some [.number .epochSeconds .none]
  | 'a' => some [.weekdayName false]
  | 'A' => some [.weekdayName true]
  | 'b' => some [.monthName false]
  | 'h' => some [.monthName false]
  | 'B' => some [.monthName true]
  | 'p' => some [.halfOfDay true]
  | 'P' => some [.halfOfDay false]
  | 'D' => some shortDate
  | 'x' => some shortDate
  | 'F' => some longDate
  | 'v' => some [.number .day .blanks, .literal "-", .monthName false, .literal "-",
      .number .year .zeros]
  | 'R' => some shortTime
  | 'T' => some longTime
  | 'X' => some longTime
  | 'r' => some [.number .hourOfHalf .zeros, .literal ":", .number .minute .zeros, .literal ":",
      .number .second .zeros, .literal " ", .halfOfDay true]
  | 'c' => some ([.weekdayName false, .literal " ", .monthName false, .literal " ",
      .number .day .blanks, .literal " "] ++ longTime ++ [.literal " ", .number .year .zeros])
  | 'n' => some [.literal "\n"]
  | 't' => some [.literal "\t"]
  | '%' => some [.literal "%"]
  | _ => none

/-- The fill that a character after the `%` chooses. -/
def fillOf? : Char → Option Fill
  | '-' => some .none
  | '0' => some .zeros
  | '_' => some .blanks
  | _ => none

/-- The number of digits that a character chooses for a fraction. -/
def placesOf? : Char → Option Nat
  | '3' => some 3
  | '6' => some 6
  | '9' => some 9
  | _ => none

/-- Reads one field after its `%`. -/
def readField? : List Char → Option (List PatternItem × List Char)
  | '.' :: 'f' :: rest => some ([.fraction], rest)
  | '.' :: p :: 'f' :: rest => (placesOf? p).map fun n => ([.digits true n], rest)
  | c :: rest =>
    match fillOf? c, rest with
    | some fill, d :: rest =>
      match itemsOf? d with
      | some [.number field _] => some ([.number field fill], rest)
      | _ => none
    | some _, [] => none
    | none, rest =>
      match placesOf? c, rest with
      | some n, 'f' :: rest => some ([.digits false n], rest)
      | some _, _ => none
      | none, rest => (itemsOf? c).map fun items => (items, rest)
  | [] => none

/-- A field takes at least one character. -/
theorem length_of_readField? {cs : List Char} {items : List PatternItem} {rest : List Char}
    (h : readField? cs = some (items, rest)) : rest.length < cs.length := by
  unfold readField? at h
  split at h
  · cases h; simp only [List.length_cons]; omega
  · rw [Option.map_eq_some_iff] at h
    obtain ⟨n, _, h⟩ := h
    cases h; simp only [List.length_cons]; omega
  · split at h
    · split at h
      · cases h; simp only [List.length_cons]; omega
      · cases h
    · cases h
    · split at h
      · cases h; simp only [List.length_cons]; omega
      · cases h
      · rw [Option.map_eq_some_iff] at h
        obtain ⟨n, _, h⟩ := h
        cases h; simp
  · cases h

/-- Reads a whole pattern. -/
def readPattern? : List Char → Option (List PatternItem)
  | [] => some []
  | c :: cs =>
    if c = '%' then
      match _h : readField? cs with
      | some (items, rest) => (readPattern? rest).map (items ++ ·)
      | none => none
    else (readPattern? cs).map (.text [c] :: ·)
termination_by cs => cs.length
decreasing_by
  · have := length_of_readField? _h
    simp only [List.length_cons]; omega
  · simp

/-! ## §3. Writing. -/

/-- A number of two places.  One of more than two digits, which only a century has, is shown
by the character that many places after the digit zero, and its last digit. -/
def twoPlaces (fill : Fill) (n : Nat) : List Char :=
  let ones := Char.ofNat (48 + n % 10)
  if n / 10 = 0 then
    match fill with
    | .none => [ones]
    | .zeros => ['0', ones]
    | .blanks => [' ', ones]
  else [Char.ofNat (48 + n / 10), ones]

/-- A number filled up to a width, with a plus sign if wanted. -/
def filled (fill : Fill) (width : Nat) (plus : Bool) (n : Int) : List Char :=
  let ds := digitsOf n.natAbs
  let sign := if n < 0 then ['-'] else if plus then ['+'] else []
  let missing := width - (sign.length + ds.length)
  match fill with
  | .none => sign ++ ds
  | .zeros => sign ++ List.replicate missing '0' ++ ds
  | .blanks => List.replicate missing ' ' ++ sign ++ ds

/-- A year: four places, or a sign and more when it is not between 0 and 9999. -/
def yearText (fill : Fill) (year : Int) : List Char :=
  if 0 ≤ year ∧ year < 10000 then filled fill 4 false year else filled fill 5 true year

/-- The hour on a clock of twelve hours. -/
def hourOnDial (hour : Nat) : Nat := if hour % 12 = 0 then 12 else hour % 12

/-- The nanoseconds of the second, without those that mark a leap second. -/
def DateTime.nanoOfSecond (t : DateTime) : Nat := t.nano % nanosPerSecond

/-- The second as the clock shows it: 60 in a leap second. -/
def DateTime.shownSecond (t : DateTime) : Nat := t.secondOfMinute + t.nano / nanosPerSecond

/-- Writes a number field. -/
def NumberField.write (f : NumberField) (fill : Fill) (t : DateTime) : List Char :=
  match f with
  | .year => yearText fill t.date.year
  | .century => twoPlaces fill (t.date.year / 100 % 256).toNat
  | .yearOfCentury => twoPlaces fill (t.date.year % 100).toNat
  | .weekYear => yearText fill t.date.numberedWeek.1
  | .weekYearOfCentury => twoPlaces fill (t.date.numberedWeek.1 % 100).toNat
  | .numberedWeek => twoPlaces fill t.date.numberedWeek.2.toNat
  | .quarter => digitsOf ((t.date.month - 1) / 3 + 1)
  | .month => twoPlaces fill t.date.month
  | .day => twoPlaces fill t.date.day
  | .dayOfYear => filled fill 3 false t.date.dayOfYear
  | .weekFromSunday => twoPlaces fill (t.date.weekOfYear t.date.daysFromSunday)
  | .weekFromMonday => twoPlaces fill (t.date.weekOfYear t.date.daysFromMonday)
  | .daysFromSunday => digitsOf t.date.daysFromSunday
  | .weekday => digitsOf (t.date.daysFromMonday + 1)
  | .hour => twoPlaces fill t.hour
  | .hourOfHalf => twoPlaces fill (hourOnDial t.hour)
  | .minute => twoPlaces fill t.minute
  | .second => twoPlaces fill t.shownSecond
  | .nano => filled fill 9 false t.nanoOfSecond
  | .epochSeconds => filled fill 9 false t.epochSeconds

/-- The names of the days of the week. -/
def weekdayNames : List String :=
  ["Monday", "Tuesday", "Wednesday", "Thursday", "Friday", "Saturday", "Sunday"]

/-- The names of the months. -/
def monthNames : List String :=
  ["January", "February", "March", "April", "May", "June", "July", "August", "September",
    "October", "November", "December"]

/-- A name in full, or its first three letters. -/
def nameText (full : Bool) (name : String) : List Char :=
  if full then name.toList else name.toList.take 3

/-- The fraction of a second in as many digits as it needs: none, three, six or nine. -/
def fractionText (nano : Nat) : List Char :=
  if nano = 0 then []
  else if nano % 1000000 = 0 then '.' :: padZeros 3 (nano / 1000000)
  else if nano % 1000 = 0 then '.' :: padZeros 6 (nano / 1000)
  else '.' :: padZeros 9 nano

/-- Writes one item. -/
def PatternItem.write (item : PatternItem) (t : DateTime) : List Char :=
  match item with
  | .text cs => cs
  | .number field fill => field.write fill t
  | .weekdayName full => nameText full (weekdayNames.getD t.date.daysFromMonday "")
  | .monthName full => nameText full (monthNames.getD (t.date.month - 1) "")
  | .halfOfDay capitals =>
    match decide (t.hour < 12), capitals with
    | true, true => ['A', 'M']
    | true, false => ['a', 'm']
    | false, true => ['P', 'M']
    | false, false => ['p', 'm']
  | .fraction => fractionText t.nanoOfSecond
  | .digits point count =>
    (if point then ['.'] else []) ++ padZeros count (t.nanoOfSecond / tenTo (9 - count))

/-- Writes a point in time by a pattern. -/
def DateTime.write? (t : DateTime) (pattern : List Char) : Option (List Char) :=
  (readPattern? pattern).map fun items => items.flatMap (·.write t)

end Fanout.Calendar
