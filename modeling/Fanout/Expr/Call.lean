/-
  Fanout.Expr.Call
  ────────────────
  **What functions, attributes and methods give.**
-/
import Fanout.Text.Case
import Fanout.Calendar.Timestamp
import Fanout.Expr.Arithmetic

namespace Fanout.Expr

open Fanout.Number Fanout.Calendar Fanout.Text

/-! ## §1. Conversions. -/

/-- Reads a timestamp; double quotes around it do not count. -/
def readTimestamp (text : String) : Outcome DateTime :=
  let bare := unquoted text
  match readTimestamp? bare.toList with
  | some t => .ok t
  | none => .error (.badText (.timestamp bare))

/-- A whole float as an integer value. -/
def wordOfFloat (operation : Overflowing) (x : Float) : Outcome Value :=
  match wholePart? x with
  | some n => narrowed operation n
  | none => .error (.overflow operation)

/-- A value as an integer; fractions are cut off. -/
def toInteger : Value → Outcome Value
  | .int n => .ok (.int n)
  | .bool b => .ok (.int (ofBool b))
  | .float x => wordOfFloat .int (truncate x)
  | .str s =>
    match readWord? (trim s.toList) with
    | some n => .ok (.int n)
    | none => .error (.badText (.int s))
  | v => .error (.mismatch (.argument .int v.kind))

/-- A value as a float. -/
def toFloat (v : Value) : Outcome Value :=
  match v, v.numeric? with
  | .str s, _ =>
    match readFloat? (trim s.toList) with
    | some x => .ok (.float x)
    | none => .error (.badText (.float s))
  | _, some n => .ok (.float n.toFloat)
  | v, none => .error (.mismatch (.argument .float v.kind))

/-! ## §2. Sizes and rounding. -/

/-- The size of a number or a duration. -/
def absolute (v : Value) : Outcome Value :=
  match v, v.numeric? with
  | .duration d, _ => .ok (.duration d.abs)
  | _, some (.int n) => narrowed .abs n.toInt.natAbs
  | _, some (.float x) => .ok (.float x.abs)
  | v, none => .error (.mismatch (.argument .abs v.kind))

/-- The number of characters of a text. -/
def lengthOf : Value → Outcome Value
  | .str s => .ok (.int (Int64.ofInt s.length))
  | v => .error (.mismatch (.noLength v.kind))

/-- A float rounded at a decimal place, to the nearest, a tie to the even digit. -/
def roundAt (x : Float) (places : Int) : Float :=
  let scale := wholePower 10.0 places
  roundEven (x * scale) / scale

/-- The exponents that a power of ten may have in rounding. -/
def isPlaces (n : Int) : Bool := decide (-2147483648 ≤ n) && decide (n ≤ 2147483647)

/-- A number rounded to a whole one, or at a decimal place. -/
def rounded (x : Numeric) (places : Option Value) : Outcome Value :=
  match places, x with
  | none, .int n => .ok (.int n)
  | none, .float f => wordOfFloat .round (roundEven f)
  | some (.int n), x =>
    match x, decide (0 ≤ n.toInt) with
    | .int i, true => .ok (.int i)
    | x, _ =>
      if isPlaces n.toInt then .ok (.float (roundAt x.toFloat n.toInt))
      else .error (.overflow .round)
  | some v, _ => .error (.mismatch (.argument .round v.kind))

/-! ## §3. Functions. -/

/-- The least or greatest of some values: `wanted` is the order in which a candidate
replaces the best value so far. -/
def extreme (f : Builtin) (wanted : Ordering) : Value → List Value → Outcome Value
  | best, [] => .ok best
  | best, candidate :: rest =>
    match candidate.order best with
    | some o => extreme f wanted (if o = wanted then candidate else best) rest
    | none => .error (.mismatch (.incomparable f candidate.kind best.kind))

/-- Calls `f` with its single argument. -/
def withOne (f : Builtin) (args : List Value) (body : Value → Outcome Value) : Outcome Value :=
  match args with
  | [v] => body v
  | args => .error (.mismatch (.argumentCount f args.length))

/-- What a function gives. -/
def callBuiltin (f : Builtin) (args : List Value) : Outcome Value :=
  match f with
  | .ts => withOne f args fun
    | .str s => (readTimestamp s).map .dateTime
    | v => .error (.mismatch (.argument .ts v.kind))
  | .str => withOne f args fun v => .ok (.str v.text)
  | .int => withOne f args toInteger
  | .float => withOne f args toFloat
  | .bool => withOne f args fun v => .ok (.bool v.isTruthy)
  | .len => withOne f args lengthOf
  | .abs => withOne f args absolute
  | .min =>
    match args with
    | [] => .error (.mismatch (.noArgument .min))
    | v :: rest => extreme .min .lt v rest
  | .max =>
    match args with
    | [] => .error (.mismatch (.noArgument .max))
    | v :: rest => extreme .max .gt v rest
  | .round =>
    match args with
    | [v] => roundValue v none
    | [v, places] => roundValue v (some places)
    | _ => .error (.mismatch .roundArguments)
where
  /-- Rounds a value that has to be a number. -/
  roundValue (v : Value) (places : Option Value) : Outcome Value :=
    match v.numeric? with
    | some x => rounded x places
    | none => .error (.mismatch (.argument .round v.kind))

/-! ## §4. Attributes. -/

/-- The attribute of a point in time. -/
def timeAttribute (t : DateTime) : Attribute → Int
  | .year => t.date.year
  | .month => t.date.month
  | .day => t.date.day
  | .hour => t.hour
  | .minute => t.minute
  | .second => t.secondOfMinute
  | _ => t.micros

/-- The attribute of a duration. -/
def durationAttribute (d : Duration) : Attribute → Int
  | .days => d.parts.days
  | .seconds => d.parts.seconds
  | _ => d.parts.micros

/-- What an attribute gives. -/
def attributeOf (v : Value) (attr : String) : Outcome Value :=
  match v, Attribute.find? v.kind attr with
  | .dateTime t, some a => .ok (.int (Int64.ofInt (timeAttribute t a)))
  | .duration d, some a => .ok (.int (Int64.ofInt (durationAttribute d a)))
  | v, _ => .error (.unknownAttribute v.kind attr)

/-! ## §5. Methods. -/

/-- Replaces a text of at least one character wherever it stands, from left to right. -/
def replaceIn (old new : List Char) : List Char → Nat → List Char
  | [], _ => []
  | _ :: cs, skip + 1 => replaceIn old new cs skip
  | c :: cs, 0 =>
    if old.isPrefixOf (c :: cs) then new ++ replaceIn old new cs (old.length - 1)
    else c :: replaceIn old new cs 0

/-- A text with every occurrence of another one replaced; the empty text stands between any
two characters and at both ends. -/
def replaced (s old new : String) : String :=
  if old.isEmpty then
    String.ofList (new.toList ++ s.toList.flatMap fun c => c :: new.toList)
  else String.ofList (replaceIn old.toList new.toList s.toList 0)

/-- The seconds since the start of 1970 as a float. -/
def secondsSinceEpoch (t : DateTime) : Float :=
  floatOfInt t.epochSeconds + floatOfInt t.micros / 1000000.0

/-- Writes a point in time by a pattern. -/
def writeTime (t : DateTime) (pattern : String) : Outcome Value :=
  match t.write? pattern.toList with
  | some text => .ok (.str (String.ofList text))
  | none => .error (.badText (.pattern pattern))

/-- The length of a duration in seconds as a float. -/
def totalSeconds (d : Duration) : Outcome Value :=
  match d.micros? with
  | some n => .ok (.float (floatOfWord n / 1000000.0))
  | none => .error (.overflow .totalSeconds)

/-- The texts that all arguments have to be. -/
def textArguments (m : Method) : List Value → Outcome (List String)
  | [] => .ok []
  | .str s :: rest => (textArguments m rest).map (s :: ·)
  | v :: _ => .error (.mismatch (.textArgument m v.kind))

/-- The methods of texts that take texts. -/
def textMethod (s : String) (m : Method) (args : List Value) : Outcome Value :=
  match textArguments m args with
  | .error e => .error e
  | .ok texts =>
    match m, texts with
    | .startswith, [t] => .ok (.bool (t.toList.isPrefixOf s.toList))
    | .endswith, [t] => .ok (.bool (t.toList.isSuffixOf s.toList))
    | .replace, [old, new] => .ok (.str (replaced s old new))
    | m, texts => .error (.mismatch (.textArgumentCount m texts.length))

/-- Gives `result` if there are as many arguments as there should be. -/
def withCount (m : Method) (takes : Nat) (args : List Value) (result : Outcome Value) :
    Outcome Value :=
  if args.length = takes then result
  else .error (.mismatch (.methodArguments m takes args.length))

/-- Writes a point in time by a pattern that has to be a text. -/
def writeTimeBy (t : DateTime) : List Value → Outcome Value
  | .str pattern :: _ => writeTime t pattern
  | v :: _ => .error (.mismatch (.patternKind v.kind))
  | [] => .error (.mismatch (.methodArguments .strftime 1 0))

/-- What a method gives. -/
def callMethod (v : Value) (name : String) (args : List Value) : Outcome Value :=
  match v, Method.find? v.kind name with
  | .dateTime t, some .timestamp =>
    withCount .timestamp 0 args (.ok (.float (secondsSinceEpoch t)))
  | .dateTime t, some .isoformat =>
    withCount .isoformat 0 args (.ok (.str (String.ofList (dateTimeText 'T' t))))
  | .dateTime t, some .strftime => withCount .strftime 1 args (writeTimeBy t args)
  | .duration d, some .totalSeconds => withCount .totalSeconds 0 args (totalSeconds d)
  | .str s, some .upper => withCount .upper 0 args (.ok (.str (upper s)))
  | .str s, some .lower => withCount .lower 0 args (.ok (.str (lower s)))
  | .str s, some .strip => withCount .strip 0 args (.ok (.str (trimmed s)))
  | .str s, some m => textMethod s m args
  | v, _ => .error (.unknownAttribute v.kind name)

end Fanout.Expr
