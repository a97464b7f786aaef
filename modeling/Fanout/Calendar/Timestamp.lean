/-
  Fanout.Calendar.Timestamp
  ─────────────────────────
  **Reading timestamps.**

  A timestamp is `year-month-dayThour:minute:second`, optionally with a
  fraction of the second, and ends in `Z`.  Blanks may stand before a
  number.  A year of at most four digits needs no sign, a longer one does;
  the other numbers have one or two digits.  Of a fraction the first nine
  digits count.  Second 60 is a leap second and may stand in any minute.
-/
import Fanout.Text.Blank
import Fanout.Number.Numeral
import Fanout.Calendar.DateTime

namespace Fanout.Calendar

open Fanout.Text Fanout.Number

/-! ## §1. The parts of a timestamp. -/

/-- Takes at most `width` digits, and at least one. -/
def takeDigits? (width : Nat) (cs : List Char) : Option (Nat × List Char) :=
  let ds := (cs.take width).takeWhile Char.isDigit
  if ds.isEmpty then none else some (digitsValue ds, cs.drop ds.length)

/-- Takes a number of one or two digits, after blanks. -/
def takeShort? (cs : List Char) : Option (Nat × List Char) := takeDigits? 2 (trimLeft cs)

/-- Takes a year: up to four digits, or any number of digits after a sign. -/
def takeYear? (cs : List Char) : Option (Int × List Char) :=
  match trimLeft cs with
  | '-' :: rest => (takeDigits? rest.length rest).map fun (n, r) => (-(n : Int), r)
  | '+' :: rest => (takeDigits? rest.length rest).map fun (n, r) => ((n : Int), r)
  | rest => (takeDigits? 4 rest).map fun (n, r) => ((n : Int), r)

/-- Takes one given character. -/
def takeChar? (c : Char) : List Char → Option (List Char)
  | d :: rest => if c = d then some rest else none
  | [] => none

/-- Takes the fraction of a second, if there is a point, in nanoseconds. -/
def takeFraction? : List Char → Option (Nat × List Char)
  | '.' :: cs =>
    let ds := (cs.take 9).takeWhile Char.isDigit
    if ds.isEmpty then none
    else some (digitsValue ds * tenTo (9 - ds.length), cs.dropWhile Char.isDigit)
  | cs => some (0, cs)

/-! ## §2. Whole timestamps. -/

/-- The point in time with these parts; second 60 is a leap second. -/
def ofClock? (year : Int) (month day hour minute second nano : Nat) : Option DateTime :=
  match Date.of? year month day with
  | none => none
  | some date =>
    if 24 ≤ hour ∨ 60 ≤ minute ∨ 61 ≤ second then none
    else if second = 60 then
      DateTime.of? date (hour * 3600 + minute * 60 + 59) (nano + nanosPerSecond)
    else DateTime.of? date (hour * 3600 + minute * 60 + second) nano

/-- Reads a whole text as a timestamp. -/
def readTimestamp? (cs : List Char) : Option DateTime := do
  let (year, cs) ← takeYear? cs
  let cs ← takeChar? '-' cs
  let (month, cs) ← takeShort? cs
  let cs ← takeChar? '-' cs
  let (day, cs) ← takeShort? cs
  let cs ← takeChar? 'T' cs
  let (hour, cs) ← takeShort? cs
  let cs ← takeChar? ':' cs
  let (minute, cs) ← takeShort? cs
  let cs ← takeChar? ':' cs
  let (second, cs) ← takeShort? cs
  let (nano, cs) ← takeFraction? cs
  let cs ← takeChar? 'Z' cs
  if cs.isEmpty then ofClock? year month day hour minute second nano else none

end Fanout.Calendar
