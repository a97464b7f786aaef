/-
  Fanout.Log.Directive
  ────────────────────
  **The parts that a filter is written in.**

  A directive is a level, or what events it is for with a level behind an
  equals sign.  What it is for is a topic, and in brackets behind the topic
  the name of a span of time and in braces a field.

  The places where the parts of a directive begin and end are found in the
  text without the blanks around it, but the parts are taken from the text as
  it is.  So blanks in front move every part, and most directives with a blank
  at one of their ends are for a topic that nothing has.
-/
import Fanout.Assoc
import Fanout.Log.Event
import Fanout.Log.ValuePattern
import Fanout.Text.Alphanumeric
import Fanout.Text.Blank
import Fanout.Text.Case
import Fanout.Text.Split
import Fanout.Text.Utf8

namespace Fanout.Log

open Fanout.Number Fanout.Text

/-! ## §1. Levels. -/

/-- The least important level that passes; none if nothing passes. -/
abbrev Threshold := Option Level

/-- Does an event of a level pass? -/
def passes (t : Threshold) (l : Level) : Bool :=
  match t with
  | some least => decide (l.rank ≤ least.rank)
  | none => false

/-- The names of the thresholds. -/
def thresholdNames : List (String × Threshold) :=
  [("off", none), ("error", some .error), ("warn", some .warn), ("info", some .info),
    ("debug", some .debug), ("trace", some .trace)]

/-- The threshold with a name, in capital or small letters. -/
def namedThreshold? (name : String) : Option Threshold := Assoc.get? (lower name) thresholdNames

/-- The threshold with a number. -/
def numberedThreshold? (cs : List Char) : Option Threshold :=
  let digits := if cs.head? = some '+' then cs.drop 1 else cs
  if digits.isEmpty || !digits.all Char.isDigit then none
  else (thresholdNames[digitsValue digits]?).map (·.2)

/-- The threshold that a text in a directive names; only plain letters count as equal in
capitals. -/
def threshold? (cs : List Char) : Option Threshold :=
  match numberedThreshold? cs with
  | some t => some t
  | none => Assoc.get? (String.ofList (cs.map Char.toLower)) thresholdNames

/-! ## §2. Directives. -/

/-- What a directive asks of the fields of an event. -/
structure FieldTest where
  /-- The name of the field. -/
  name : String
  /-- Has the field to have a certain value? -/
  valued : Bool
  deriving DecidableEq, Repr

/-- A directive. -/
structure Directive where
  /-- What the topics begin with that it is for. -/
  topic : List Char
  /-- The span of time that it is for. -/
  span : Option String
  /-- The field that events need to have. -/
  field : Option FieldTest
  /-- What passes. -/
  threshold : Threshold
  deriving DecidableEq, Repr

/-- Why a text is no directive. -/
inductive DirectiveFault where
  /-- It has not the form of one. -/
  | form
  /-- It names no level. -/
  | level
  /-- The value of its field is no pattern. -/
  | value (fault : PatternFault)
  deriving DecidableEq, Repr

/-- The wording of a fault. -/
def DirectiveFault.message : DirectiveFault → String
  | .form => "invalid filter directive"
  | .level =>
    "error parsing level filter: expected one of \"off\", \"error\", \"warn\", \"info\", " ++
      "\"debug\", \"trace\", or a number 0-5"
  | .value fault => "invalid field filter: " ++ fault.message

/-- The outcome of reading a directive. -/
abbrev Judged := Except DirectiveFault

/-! ## §3. The parts of a directive. -/

/-- The threshold behind an equals sign; nothing there lets everything pass. -/
def readThreshold (cs : List Char) : Judged Threshold :=
  if cs.isEmpty then .ok (some .trace)
  else
    match threshold? cs with
    | some t => .ok t
    | none => .error .level

/-- The field in braces; behind an equals sign it has a value, which is a number or a
pattern. -/
def readField (cs : List Char) : Judged FieldTest :=
  match splitAt '=' cs with
  | name :: value :: _ =>
    match (readFloat? value).isSome, patternFault? value with
    | false, some fault => .error (.value fault)
    | _, _ => .ok ⟨String.ofList name, true⟩
  | _ => if cs.isEmpty then .error .form else .ok ⟨String.ofList cs, false⟩

/-- The characters that a topic or a level begins with. -/
def beginsDirective (c : Char) : Bool := isAlphanumeric c || c == '-' || c == ':' || c == '_'

/-! ## §4. Reading a directive. -/

/-- The part of a directive that is being read; the numbers are the bytes where it
begins. -/
inductive Stage where
  /-- Nothing has been read. -/
  | start
  /-- A topic or a level. -/
  | topic
  /-- The name of a span of time. -/
  | span (start : Nat)
  /-- A field. -/
  | field (start : Nat)
  /-- The end of the brackets, behind a field. -/
  | fieldEnd
  /-- The end of what it is for, behind the brackets. -/
  | scopeEnd
  /-- The level. -/
  | threshold (start : Nat)

/-- A directive of which a part has been read. -/
structure Draft where
  /-- Where the reading stands. -/
  stage : Stage
  /-- The directive as far as it is known. -/
  directive : Directive

/-- The directive of which nothing is known. -/
def Draft.empty : Draft := ⟨.start, ⟨[], none, none, some .trace⟩⟩

/-- A part of the text of a directive; it has to begin and end between characters. -/
def part (text : List Char) (start stop : Nat) : Judged (List Char) :=
  match betweenBytes? start stop text with
  | some cs => .ok cs
  | none => .error .form

/-- Takes in a character of a directive, which stands at a byte of the text without blanks
around it. -/
def Draft.step (text : List Char) (place : Nat) (c : Char) (d : Draft) : Judged Draft :=
  match d.stage with
  | .start =>
    if c = '[' then .ok { d with stage := .span (place + 1) }
    else if beginsDirective c then .ok { d with stage := .topic }
    else .error .form
  | .topic =>
    if c = '=' then
      (part text 0 place).map fun topic =>
        ⟨.threshold (place + 1), { d.directive with topic }⟩
    else if c = '[' then
      (part text 0 place).map fun topic => ⟨.span (place + 1), { d.directive with topic }⟩
    else .ok d
  | .span start =>
    if c = ']' then
      (part text start place).map fun name =>
        ⟨.scopeEnd, { d.directive with span := some (String.ofList name) }⟩
    else if c = '\x7b' then
      (part text start place).map fun name =>
        let span := if name.isEmpty then none else some (String.ofList name)
        ⟨.field (place + 1), { d.directive with span }⟩
    else .ok d
  | .field start =>
    if c = '\x7d' then
      match part text start place with
      | .error fault => .error fault
      | .ok cs => (readField cs).map fun f => ⟨.fieldEnd, { d.directive with field := some f }⟩
    else .ok d
  | .fieldEnd => if c = ']' then .ok { d with stage := .scopeEnd } else .error .form
  | .scopeEnd => if c = '=' then .ok { d with stage := .threshold (place + 1) } else .error .form
  | .threshold _ => .ok d

/-- Takes in characters, the first of which stands at a byte. -/
def Draft.steps (text : List Char) (place : Nat) (d : Draft) : List Char → Judged Draft
  | [] => .ok d
  | c :: cs =>
    match d.step text place c with
    | .error fault => .error fault
    | .ok d => d.steps text (place + c.utf8Size) cs

/-- The directive when its text ends. -/
def Draft.finish (text : List Char) (d : Draft) : Judged Directive :=
  match d.stage with
  | .topic =>
    match threshold? text with
    | some threshold => .ok { d.directive with threshold }
    | none => .ok { d.directive with topic := text }
  | .scopeEnd => .ok d.directive
  | .threshold start =>
    match part text start (byteLength text) with
    | .error fault => .error fault
    | .ok cs => (readThreshold cs).map fun threshold => { d.directive with threshold }
  | _ => .error .form

/-- Reads a directive. -/
def readDirective (text : List Char) : Judged Directive :=
  match Draft.empty.steps text 0 (trim text) with
  | .error fault => .error fault
  | .ok d => d.finish text

end Fanout.Log
