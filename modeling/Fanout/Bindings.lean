/-
  Fanout.Bindings
  ───────────────
  **Names and the values bound to them.**

  The names stand in the order in which they were first bound; binding a
  name again replaces its value and keeps its place.  The laws of the view
  `get?` are:

    • `get?_bind` — a bound name has its last value, and no other name
      changes,
    • `names_bind` — a new name goes to the end, a known one stays.
-/
import Fanout.Assoc
import Fanout.Value
import Fanout.Text.Escaped

namespace Fanout

/-- Names with their values, in the order of the first binding. -/
structure Bindings where
  /-- The names and values. -/
  entries : List (String × Value)
  deriving DecidableEq

namespace Bindings

/-! ## §1. Operations. -/

/-- No name is bound. -/
def empty : Bindings := ⟨[]⟩

/-- Binds a name to a value. -/
def bind (b : Bindings) (name : String) (value : Value) : Bindings :=
  ⟨Assoc.put name value b.entries⟩

/-- Binds names to values, one after the other. -/
def bindAll (b : Bindings) (pairs : List (String × Value)) : Bindings :=
  pairs.foldl (fun b p => b.bind p.1 p.2) b

/-- The value bound to a name. -/
def get? (b : Bindings) (name : String) : Option Value := Assoc.get? name b.entries

/-- The bound names, in order. -/
def names (b : Bindings) : List String := Assoc.keys b.entries

/-- The number of names. -/
def size (b : Bindings) : Nat := b.entries.length

/-- Is nothing bound? -/
def isEmpty (b : Bindings) : Bool := b.entries.isEmpty

/-! ## §2. Text. -/

/-- A value in a list of bindings: texts are shown with quotes and escapes. -/
def valueText : Value → String
  | .str s => Text.escaped s
  | v => v.text

/-- The bindings between braces, in order. -/
def text (b : Bindings) : String :=
  "\x7b" ++ ", ".intercalate (b.entries.map fun e => e.1 ++ ": " ++ valueText e.2) ++ "\x7d"

/-! ## §3. Laws. -/

/-- A bound name has its last value, and no other name changes. -/
theorem get?_bind (b : Bindings) (name other : String) (value : Value) :
    (b.bind name value).get? other = if name = other then some value else b.get? other :=
  Assoc.get?_put name other value b.entries

/-- A new name goes to the end, a known one stays where it is. -/
theorem names_bind (b : Bindings) (name : String) (value : Value) :
    (b.bind name value).names = if name ∈ b.names then b.names else b.names ++ [name] :=
  Assoc.keys_put name value b.entries

end Bindings

end Fanout
