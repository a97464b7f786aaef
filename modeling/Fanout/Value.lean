/-
  Fanout.Value
  ────────────
  **The values that names are bound to and expressions compute.**

  There are eight kinds of value.  Truth values, integers and floats are
  *numbers*: arithmetic and comparison treat a truth value as 0 or 1.
  Every value has a text, which is what a template shows for it.
-/
import Fanout.Number.Numeral
import Fanout.Calendar.Pattern
import Fanout.Text.Blank

namespace Fanout

open Fanout.Number Fanout.Calendar

/-! ## §1. Built-in functions. -/

/-- The functions that expressions can call. -/
inductive Builtin where
  /-- Reads a timestamp; reachable only where a name is bound to it. -/
  | ts
  | str | int | float | bool | len | abs | min | max | round
  deriving DecidableEq, Repr

/-- The name of a function. -/
def Builtin.name : Builtin → String
  | .ts => "ts"
  | .str => "str"
  | .int => "int"
  | .float => "float"
  | .bool => "bool"
  | .len => "len"
  | .abs => "abs"
  | .min => "min"
  | .max => "max"
  | .round => "round"

/-- The functions that need no binding. -/
def Builtin.implicit : List Builtin :=
  [.str, .int, .float, .bool, .len, .abs, .min, .max, .round]

/-- The function that a name means when nothing is bound to it. -/
def Builtin.implicit? (name : String) : Option Builtin :=
  Builtin.implicit.find? fun f => f.name == name

/-! ## §2. Values. -/

/-- A value. -/
inductive Value where
  | none
  | bool (b : Bool)
  | int (n : Int64)
  | float (x : Float)
  | str (s : String)
  | dateTime (t : DateTime)
  | duration (d : Duration)
  | builtin (f : Builtin)
  deriving DecidableEq

/-- The kinds of value. -/
inductive Kind where
  | none | bool | int | float | str | dateTime | duration | builtin
  deriving DecidableEq, Repr

/-- The kind of a value. -/
def Value.kind : Value → Kind
  | .none => .none
  | .bool _ => .bool
  | .int _ => .int
  | .float _ => .float
  | .str _ => .str
  | .dateTime _ => .dateTime
  | .duration _ => .duration
  | .builtin _ => .builtin

/-- The name of a kind in diagnostics. -/
def Kind.name : Kind → String
  | .none => "NoneType"
  | .bool => "bool"
  | .int => "int"
  | .float => "float"
  | .str => "str"
  | .dateTime => "datetime"
  | .duration => "timedelta"
  | .builtin => "builtin_function"

/-- Does the value count as true in a condition? -/
def Value.isTruthy : Value → Bool
  | .none => false
  | .bool b => b
  | .int n => n != 0
  | .float x => !isZero x
  | .str s => !s.isEmpty
  | .dateTime _ => true
  | .duration d => !d.isZero
  | .builtin _ => true

/-! ## §3. Numbers. -/

/-- A value seen as a number. -/
inductive Numeric where
  | int (n : Int64)
  | float (x : Float)
  deriving DecidableEq

/-- The number that a value is, if it is one. -/
def Value.numeric? : Value → Option Numeric
  | .bool b => some (.int (ofBool b))
  | .int n => some (.int n)
  | .float x => some (.float x)
  | _ => .none

/-- The float nearest to a number. -/
def Numeric.toFloat : Numeric → Float
  | .int n => floatOfWord n
  | .float x => x

/-- The value of a number. -/
def Numeric.toValue : Numeric → Value
  | .int n => .int n
  | .float x => .float x

/-! ## §4. Comparison. -/

/-- The order of two numbers: of two integers by value, otherwise of the nearest floats. -/
def Numeric.order : Numeric → Numeric → Option Ordering
  | .int a, .int b => some (compare a.toInt b.toInt)
  | a, b => Number.order a.toFloat b.toFloat

/-- The order of two texts, by the codes of their characters. -/
def textOrder (a b : String) : Ordering := if a < b then .lt else if a = b then .eq else .gt

/-- Are two values equal?  Numbers are by their order, all others by being the same. -/
def Value.equals (a b : Value) : Bool :=
  match a.numeric?, b.numeric? with
  | some x, some y => x.order y == some .eq
  | _, _ => decide (a = b)

/-- The order of two values; there is one between numbers, texts, points in time and
durations, each among themselves. -/
def Value.order (a b : Value) : Option Ordering :=
  match a.numeric?, b.numeric? with
  | some x, some y => x.order y
  | _, _ =>
    match a, b with
    | .str s, .str t => some (textOrder s t)
    | .dateTime s, .dateTime t => some (s.order t)
    | .duration s, .duration t => some (s.order t)
    | _, _ => .none

/-! ## §5. Text. -/

/-- Microseconds behind a point, unless there are none. -/
def microsText (micros : Nat) : List Char := if micros = 0 then [] else '.' :: padZeros 6 micros

/-- The year, the month and the day. -/
def dateText (d : Date) : List Char :=
  yearText .zeros d.year ++ '-' :: (padZeros 2 d.month ++ '-' :: padZeros 2 d.day)

/-- The clock of a point in time. -/
def clockText (t : DateTime) : List Char :=
  padZeros 2 t.hour ++ ':' :: (padZeros 2 t.minute ++ ':' :: padZeros 2 t.shownSecond) ++
    microsText t.micros

/-- The text of a point in time, with a character between date and clock. -/
def dateTimeText (between : Char) (t : DateTime) : List Char :=
  dateText t.date ++ between :: clockText t

/-- The text of a duration: its days, unless there are none, and a clock. -/
def durationText (p : DurationParts) : List Char :=
  let clock :=
    intDigits (p.seconds / 3600) ++ ':' :: (padZeros 2 (p.seconds / 60 % 60).toNat ++
      ':' :: padZeros 2 (p.seconds % 60).toNat) ++ microsText p.micros.toNat
  if p.days = 0 then clock
  else if p.days = 1 ∨ p.days = -1 then intDigits p.days ++ " day, ".toList ++ clock
  else intDigits p.days ++ " days, ".toList ++ clock

/-- The text of a value. -/
def Value.text : Value → String
  | .none => "None"
  | .bool true => "True"
  | .bool false => "False"
  | .int n => intText n.toInt
  | .float x => floatText x
  | .str s => s
  | .dateTime t => String.ofList (dateTimeText ' ' t)
  | .duration d => String.ofList (durationText d.parts)
  | .builtin f => "<built-in function " ++ f.name ++ ">"

/-! ## §6. Quoting. -/

/-- Is the text at least two bytes long, with a double quote at each end? -/
def isQuoted (s : String) : Bool :=
  match s.toList with
  | '"' :: c :: rest => (c :: rest).getLast? == some '"'
  | _ => false

/-- The text between double quotes, unless it has them already. -/
def quoted (s : String) : String := if isQuoted s then s else "\"" ++ s ++ "\""

/-- The text between the double quotes, where there are any. -/
def unquoted (s : String) : String :=
  if isQuoted s then String.ofList (s.toList.drop 1).dropLast else s

end Fanout
