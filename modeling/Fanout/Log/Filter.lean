/-
  Fanout.Log.Filter
  ─────────────────
  **Which events are shown.**

  A filter is a list of directives.  Of those that an event falls under the
  most precise one decides: the one with the longest topic, and among those
  one that asks for a field.  A filter without directives lets a level of its
  own pass.
-/
import Fanout.Log.Directive

namespace Fanout.Log

open Fanout.Text

/-- A filter. -/
structure Filter where
  /-- The directives, in order. -/
  directives : List Directive
  /-- What passes when there is no directive. -/
  fallback : Threshold

/-! ## §1. From text. -/

/-- The parts of a text of directives that are not empty. -/
def directiveTexts (text : String) : List (List Char) :=
  (splitAt ',' text.toList).filter fun cs => !cs.isEmpty

/-- The filter that a text describes. -/
def Filter.ofText (fallback : Threshold) (text : String) : Filter :=
  ⟨(directiveTexts text).filterMap fun cs => (readDirective cs).toOption, fallback⟩

/-- What is said about the parts of a text that are no directives. -/
def ignoredNotes (text : String) : List String :=
  (directiveTexts text).filterMap fun cs =>
    match readDirective cs with
    | .ok _ => none
    | .error fault =>
      some ("ignoring \x60" ++ String.ofList cs ++ "\x60: " ++ fault.message ++ "\n")

/-! ## §2. Deciding on events. -/

/-- Does a directive only cover what happens inside of a span of time?  No event does. -/
def Directive.bounded (d : Directive) : Bool :=
  d.span.isSome || d.field.any fun f => f.valued

/-- Does a directive cover an event?  Every event has its headline as a field. -/
def Directive.covers (d : Directive) (e : Event) : Bool :=
  !d.bounded && d.topic.isPrefixOf e.topic.toList &&
    d.field.all fun f => f.name == "message" || e.fields.any fun g => g.1 == f.name

/-- Is a directive more precise than another?  When both ask for a field under topics of the
same length, the names of the fields settle it. -/
def Directive.isMorePrecise (d other : Directive) : Bool :=
  if d.topic.length ≠ other.topic.length then decide (other.topic.length < d.topic.length)
  else
    match d.field, other.field with
    | some f, some g => decide (g.name < f.name)
    | some _, none => true
    | none, _ => false

/-- The directive that decides among two, the second of which comes later. -/
def Directive.stronger (d later : Directive) : Directive :=
  if d.isMorePrecise later then d else later

/-- The directive that decides on an event. -/
def Filter.deciding? (f : Filter) (e : Event) : Option Directive :=
  (f.directives.filter fun d => d.covers e).foldl (fun best d =>
    match best with
    | some b => some (b.stronger d)
    | none => some d) none

/-- Is an event shown? -/
def Filter.shows (f : Filter) (e : Event) : Bool :=
  if f.directives.isEmpty then passes f.fallback e.level
  else (f.deciding? e).any fun d => passes d.threshold e.level

end Fanout.Log
