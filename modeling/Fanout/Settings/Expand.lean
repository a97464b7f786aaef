/-
  Fanout.Settings.Expand
  ──────────────────────
  **Paths with variables of the environment and a home directory.**

  A dollar sign before a name, or before a name in braces, stands for a
  variable; in braces a default can follow the name.  Two dollar signs
  stand for one, and a dollar sign before anything else for itself.  A
  tilde at the start stands for the home directory, unless it came out of a
  variable.
-/
import Fanout.Assoc
import Fanout.Text.Alphanumeric
import Fanout.Text.Split

namespace Fanout.Settings

open Fanout.Text

/-- The variables of the environment. -/
abbrev Environment := List (String × String)

/-- The value of a variable. -/
def Environment.get? (env : Environment) (name : List Char) : Option (List Char) :=
  (Assoc.get? (String.ofList name) env).map String.toList

/-- The characters of a name without braces. -/
def isVariableChar (c : Char) : Bool := isAlphanumeric c || c == '_'

/-- The text before the first mark of a default, and the default behind it; there has to be
a name before the mark. -/
def splitDefault : List Char → List Char × Option (List Char)
  | [] => ([], none)
  | c :: ':' :: '-' :: cs => ([c], some cs)
  | c :: cs =>
    let (name, fallback) := splitDefault cs
    (c :: name, fallback)

/-- The name and the default between braces; a mark at the very start is part of the
name. -/
def braced (inside : List Char) : List Char × Option (List Char) :=
  match inside with
  | ':' :: '-' :: _ => (inside, none)
  | _ => splitDefault inside

/-- What a name between braces stands for. -/
def bracedValue? (env : Environment) (inside : List Char) : Option (List Char) :=
  let (name, fallback) := braced inside
  match env.get? name with
  | some v => some v
  | none => fallback

/-- What stands behind a dollar sign, and how many characters of the text it replaces; none
if a variable is missing. -/
def variableAt (env : Environment) : List Char → Option (List Char × Nat)
  | '\x7b' :: cs =>
    match splitFirst? '\x7d' cs with
    | some (inside, _) => (bracedValue? env inside).map fun v => (v, inside.length + 2)
    | none => some (['$', '\x7b'], 1)
  | '$' :: _ => some (['$'], 1)
  | cs =>
    let name := cs.takeWhile isVariableChar
    if name.isEmpty then some (['$'], 0)
    else (env.get? name).map fun v => (v, name.length)

/-- A text with the variables replaced; none if one is missing. -/
def expandVariables (env : Environment) : List Char → Option (List Char)
  | [] => some []
  | c :: cs =>
    if c = '$' then
      match variableAt env cs with
      | some (v, n) => (expandVariables env (cs.drop n)).map (v ++ ·)
      | none => none
    else (expandVariables env cs).map (c :: ·)
termination_by cs => cs.length
decreasing_by
  · simp only [List.length_drop, List.length_cons]; omega
  · simp

/-- A text with the home directory for a tilde at its start, if a slash or nothing
follows. -/
def expandHome (home : List Char) : List Char → List Char
  | ['~'] => home
  | '~' :: '/' :: cs => home ++ '/' :: cs
  | cs => cs

/-- A path with its variables replaced and the home directory put in; none if a variable is
missing. -/
def expand (env : Environment) (cs : List Char) : Option (List Char) :=
  (expandVariables env cs).map fun expanded =>
    if cs.head? != some '~' && expanded.head? == some '~' then expanded
    else
      match env.get? "HOME".toList with
      | some home => expandHome home expanded
      | none => expanded

end Fanout.Settings
