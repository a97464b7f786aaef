/-
  Fanout.Expr.Method
  ──────────────────
  **The attributes and methods of values.**

  Points in time and durations have attributes; points in time, durations
  and texts have methods.  Both are looked up by the kind of the value and
  the name; a value has no other attributes or methods.
-/
import Fanout.Value

namespace Fanout.Expr

/-! ## §1. Attributes. -/

/-- What can be read off a point in time or a duration. -/
inductive Attribute where
  | year | month | day | hour | minute | second | microsecond
  | days | seconds | microseconds
  deriving DecidableEq, Repr

/-- The name of an attribute. -/
def Attribute.name : Attribute → String
  | .year => "year"
  | .month => "month"
  | .day => "day"
  | .hour => "hour"
  | .minute => "minute"
  | .second => "second"
  | .microsecond => "microsecond"
  | .days => "days"
  | .seconds => "seconds"
  | .microseconds => "microseconds"

/-- The attributes of the values of a kind. -/
def Attribute.ofKind : Kind → List Attribute
  | .dateTime => [.year, .month, .day, .hour, .minute, .second, .microsecond]
  | .duration => [.days, .seconds, .microseconds]
  | _ => []

/-- The attribute of that name. -/
def Attribute.find? (kind : Kind) (name : String) : Option Attribute :=
  (Attribute.ofKind kind).find? fun a => a.name == name

/-! ## §2. Methods. -/

/-- What can be called on a value. -/
inductive Method where
  | timestamp | isoformat | strftime
  | totalSeconds
  | upper | lower | strip | startswith | endswith | replace
  deriving DecidableEq, Repr

/-- The name of a method. -/
def Method.name : Method → String
  | .timestamp => "timestamp"
  | .isoformat => "isoformat"
  | .strftime => "strftime"
  | .totalSeconds => "total_seconds"
  | .upper => "upper"
  | .lower => "lower"
  | .strip => "strip"
  | .startswith => "startswith"
  | .endswith => "endswith"
  | .replace => "replace"

/-- The methods of the values of a kind. -/
def Method.ofKind : Kind → List Method
  | .dateTime => [.timestamp, .isoformat, .strftime]
  | .duration => [.totalSeconds]
  | .str => [.upper, .lower, .strip, .startswith, .endswith, .replace]
  | _ => []

/-- The method of that name. -/
def Method.find? (kind : Kind) (name : String) : Option Method :=
  (Method.ofKind kind).find? fun m => m.name == name

end Fanout.Expr
