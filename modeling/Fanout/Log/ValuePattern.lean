/-
  Fanout.Log.ValuePattern
  ───────────────────────
  **Which texts are patterns.**

  A filter may ask that the value of a field matches a regular expression.
  Only the fields of spans of time have values that are matched, and no event
  happens inside of one; so a pattern is never run, but a text that is none
  spoils the directive it stands in.

  A pattern is read from left to right.  `PatternState` holds what the
  characters so far have opened: groups, which bring back the mode of their
  surroundings when they end, and classes in brackets.
-/
import Fanout.Text.Alphanumeric
import Fanout.Text.Blank
import Fanout.Text.CharCode

namespace Fanout.Log

open Fanout.Text

/-! ## §1. Modes. -/

/-- Why a text cannot serve as a pattern. -/
inductive PatternFault where
  /-- It has not the form of one. -/
  | form
  /-- It asks for the edges of words in every script. -/
  | wordEdge
  deriving DecidableEq, Repr

/-- The wording of a fault. -/
def PatternFault.message : PatternFault → String
  | .form => "error building NFA"
  | .wordEdge =>
    "unsupported regex feature for DFAs: cannot build DFAs for regexes with Unicode word " ++
      "boundaries; switch to ASCII word boundaries, or heuristically enable Unicode word " ++
      "boundaries or use a different regex engine"

/-- How the characters of a pattern are taken. -/
structure PatternMode where
  /-- Are blanks and comments left out? -/
  loose : Bool
  /-- Does it go by the characters of every script, and not by bytes? -/
  unicode : Bool
  deriving DecidableEq, Repr

/-- The characters that may stand for themselves: bytes above the plain ones match no
text. -/
def PatternMode.admits (m : PatternMode) (c : Char) : Bool := m.unicode || decide (c.toNat < 128)

/-- The letters of the flags, and the sign behind which they are taken away. -/
def flagSigns : List Char := "imsUuRx-".toList

/-- Is the text a list of flags?  None comes twice, and the sign does not come last. -/
def isFlagList (cs : List Char) : Bool :=
  cs.all flagSigns.contains && decide cs.Nodup && cs.getLast? != some '-'

/-- What a list of flags makes of one flag. -/
def flagIn (cs : List Char) (flag : Char) (before : Bool) : Bool :=
  if (cs.takeWhile fun c => c != '-').contains flag then true
  else if (cs.dropWhile fun c => c != '-').contains flag then false
  else before

/-- The mode under a list of flags. -/
def PatternMode.under (m : PatternMode) (cs : List Char) : PatternMode :=
  ⟨flagIn cs 'x' m.loose, flagIn cs 'u' m.unicode⟩

/-- The text without the blanks and comments at its start. -/
def skipRemarks (comment : Bool) : List Char → List Char
  | [] => []
  | c :: cs =>
    if comment then skipRemarks (c != '\n') cs
    else if isBlank c then skipRemarks false cs
    else if c = '#' then skipRemarks true cs
    else c :: cs

/-- The text without what the mode leaves out at its start. -/
def PatternMode.skip (m : PatternMode) (cs : List Char) : List Char :=
  if m.loose then skipRemarks false cs else cs

/-! ## §2. Backslashes. -/

/-- What a backslash and the characters behind it mean. -/
inductive Escape where
  /-- A character. -/
  | char (c : Char)
  /-- Any character of some kind. -/
  | kind
  /-- A place in the text. -/
  | place
  /-- The edge of a word. -/
  | wordEdge
  deriving DecidableEq, Repr

/-- The letters that stand for control characters. -/
def controlCode? : Char → Option Char
  | 'a' => some '\x07'
  | 'f' => some '\x0c'
  | 't' => some '\t'
  | 'n' => some '\n'
  | 'r' => some '\r'
  | 'v' => some '\x0b'
  | _ => none

/-- The characters that a backslash leaves as they are. -/
def isEscapable (c : Char) : Bool :=
  decide (c.toNat < 128) && !c.isAlphanum && c != '<' && c != '>'

/-- The letters of the general categories of characters. -/
def categoryLetters : List Char := "CLMNPSZclmnpsz".toList

/-- What stands behind a backslash, and how many characters it takes. -/
def escapeMeaning? (m : PatternMode) : List Char → Option (Escape × Nat)
  | [] => none
  | c :: cs =>
    if isEscapable c then some (.char c, 1)
    else
      match codeLength? c, controlCode? c with
      | some n, _ => (readCode n cs).map fun (c, n) => (.char c, n)
      | none, some control => some (.char control, 1)
      | none, none =>
        if c = 'p' ∨ c = 'P' then
          if m.unicode && cs.head?.any categoryLetters.contains then some (.kind, 2) else none
        else if c = 'd' ∨ c = 's' ∨ c = 'w' then some (.kind, 1)
        else if c = 'D' ∨ c = 'S' ∨ c = 'W' then if m.unicode then some (.kind, 1) else none
        else if c = 'A' ∨ c = 'z' then some (.place, 1)
        else if c = 'b' ∨ c = 'B' ∨ c = '<' ∨ c = '>' then some (.wordEdge, 1)
        else none

/-! ## §3. How far a pattern has been read. -/

/-- How far the reading of a pattern has come. -/
structure PatternState where
  /-- How characters are taken. -/
  mode : PatternMode
  /-- The modes around the open groups, that around the innermost first. -/
  outer : List PatternMode
  /-- How many classes are open. -/
  classes : Nat
  /-- Is there something in front that can be repeated? -/
  repeatable : Bool
  /-- The names of the groups. -/
  names : List (List Char)
  /-- Has it asked for the edges of words in every script? -/
  wordEdges : Bool

/-- A step that reads a character: the state behind it, and how many more characters it
takes; none if the text is no pattern. -/
abbrev PatternStep := Option (PatternState × Nat)

/-- The state at the start of a pattern. -/
def PatternState.start : PatternState := ⟨⟨false, true⟩, [], 0, false, [], false⟩

namespace PatternState

/-- Something that can be repeated has been read. -/
def item (s : PatternState) : PatternState := { s with repeatable := true }

/-! ## §4. Classes. -/

/-- The names of classes. -/
def classNames : List String :=
  ["alnum", "alpha", "ascii", "blank", "cntrl", "digit", "graph", "lower", "print", "punct",
    "space", "upper", "word", "xdigit"]

/-- How many characters a class given by its name takes behind its bracket. -/
def namedClass? : List Char → Option Nat
  | ':' :: cs =>
    let body := if cs.head? = some '^' then cs.drop 1 else cs
    let name := body.takeWhile fun c => c != ':'
    if classNames.contains (String.ofList name) && [':', ']'].isPrefixOf (body.drop name.length)
    then some (1 + (cs.length - body.length) + name.length + 2)
    else none
  | _ => none

/-- Opens a class: behind its bracket come a sign that turns it into its opposite, and
dashes or a closing bracket that stand for themselves. -/
def openClass (s : PatternState) (cs : List Char) : PatternStep :=
  let body := s.mode.skip cs
  let opposite := body.head? = some '^'
  let body := if opposite then s.mode.skip (body.drop 1) else body
  let plain := body.dropWhile fun c => c == '-'
  let rest := if body.head? = some ']' then body.drop 1 else plain
  if opposite && !s.mode.unicode then none
  else some ({ s with classes := s.classes + 1 }, cs.length - rest.length)

/-- Reads a member of a class: the character that it is, unless it is a kind, and how many
characters it takes. -/
def member? (m : PatternMode) : List Char → Option (Option Char × Nat)
  | [] => none
  | c :: cs =>
    if c = '\\' then
      match escapeMeaning? m cs with
      | some (.char c, n) => if m.admits c then some (some c, n + 1) else none
      | some (.kind, n) => some (none, n + 1)
      | _ => none
    else if m.admits c then some (some c, 1)
    else none

/-- Reads a member of a class, or two with a dash between them and all that lie between
them. -/
def readMembers (s : PatternState) (c : Char) (cs : List Char) : PatternStep :=
  match member? s.mode (c :: cs) with
  | none => none
  | some (first, n) =>
    let behind := s.mode.skip (cs.drop (n - 1))
    let bound := s.mode.skip (behind.drop 1)
    if behind.head? ≠ some '-' ∨ bound.head? = some ']' ∨ bound.head? = some '-' then
      some (s, n - 1)
    else
      match first, member? s.mode bound with
      | some a, some (some b, n) =>
        if a.toNat ≤ b.toNat then some (s, cs.length - (bound.drop n).length) else none
      | _, _ => none

/-- Reads on inside of a class. -/
def inClass (s : PatternState) (c : Char) (cs : List Char) : PatternStep :=
  if c = '[' then
    match namedClass? cs with
    | some n => some (s, n)
    | none => s.openClass cs
  else if c = ']' then some ({ s with classes := s.classes - 1, repeatable := true }, 0)
  else if (c = '&' ∨ c = '-' ∨ c = '~') ∧ cs.head? = some c then some (s, 1)
  else s.readMembers c cs

/-! ## §5. Groups. -/

/-- Is the text a name for a group? -/
def isGroupName : List Char → Bool
  | [] => false
  | c :: cs =>
    (c == '_' || (isAlphanumeric c && !c.isDigit)) &&
      cs.all fun c => isAlphanumeric c || ['_', '.', '[', ']'].contains c

/-- Enters a group under a mode. -/
def enter (s : PatternState) (m : PatternMode) : PatternState :=
  { s with mode := m, outer := s.mode :: s.outer, repeatable := false }

/-- Opens a group with a name; the name comes next. -/
def openNamed (s : PatternState) (cs : List Char) : PatternStep :=
  let name := cs.takeWhile fun c => c != '>'
  if isGroupName name && !s.names.contains name && name.length < cs.length then
    some ({ s.enter s.mode with names := name :: s.names }, name.length + 1)
  else none

/-- Takes over flags, either from here on or for a group that opens; the flags come
next. -/
def readFlags (s : PatternState) (cs : List Char) : PatternStep :=
  let flags := cs.takeWhile fun c => c != ':' && c != ')'
  if !isFlagList flags then none
  else
    match cs.drop flags.length with
    | ':' :: _ => some (s.enter (s.mode.under flags), flags.length + 1)
    | ')' :: _ =>
      if flags.isEmpty then none
      else some ({ s with mode := s.mode.under flags, repeatable := false }, flags.length + 1)
    | _ => none

/-- Reads on behind an opening bracket. -/
def openGroup (s : PatternState) (cs : List Char) : PatternStep :=
  let body := s.mode.skip cs
  let step : PatternStep :=
    match body with
    | '?' :: 'P' :: '<' :: rest => (s.openNamed rest).map fun (s, n) => (s, n + 3)
    | '?' :: '<' :: rest => (s.openNamed rest).map fun (s, n) => (s, n + 2)
    | '?' :: rest => (s.readFlags rest).map fun (s, n) => (s, n + 1)
    | _ => some (s.enter s.mode, 0)
  step.map fun (s, n) => (s, cs.length - body.length + n)

/-- Leaves the innermost group. -/
def closeGroup (s : PatternState) : PatternStep :=
  match s.outer with
  | m :: outer => some ({ s with mode := m, outer, repeatable := true }, 0)
  | [] => none

/-! ## §6. Whole patterns. -/

/-- Reads what a backslash announces. -/
def readEscape (s : PatternState) (cs : List Char) : PatternStep :=
  match escapeMeaning? s.mode cs with
  | some (.char c, n) => if s.mode.admits c then some (s.item, n) else none
  | some (.wordEdge, n) =>
    some ({ s.item with wordEdges := s.wordEdges || s.mode.unicode }, n)
  | some (_, n) => some (s.item, n)
  | none => none

/-- Reads on outside of classes.  A count of repetitions needs a closing brace, which ends
the field that the pattern is for; so there is none. -/
def outsideClass (s : PatternState) (c : Char) (cs : List Char) : PatternStep :=
  match c with
  | '(' => s.openGroup cs
  | ')' => s.closeGroup
  | '|' => some ({ s with repeatable := false }, 0)
  | '[' => s.openClass cs
  | '?' | '*' | '+' =>
    if s.repeatable then some (s, if cs.head? = some '?' then 1 else 0) else none
  | '\x7b' => none
  | '\\' => s.readEscape cs
  | '.' => if s.mode.unicode then some (s.item, 0) else none
  | c => if s.mode.admits c then some (s.item, 0) else none

/-- Reads a character and what belongs to it. -/
def step (s : PatternState) (c : Char) (cs : List Char) : PatternStep :=
  let rest := s.mode.skip (c :: cs)
  if rest.length ≤ cs.length then some (s, cs.length - rest.length)
  else if 0 < s.classes then s.inClass c cs
  else s.outsideClass c cs

/-- Reads a text to its end. -/
def readAll (s : PatternState) : List Char → Option PatternState
  | [] => some s
  | c :: cs =>
    match s.step c cs with
    | none => none
    | some (s, extra) => s.readAll (cs.drop extra)
termination_by cs => cs.length
decreasing_by simp only [List.length_drop, List.length_cons]; omega

/-- Is nothing left open? -/
def isClosed (s : PatternState) : Bool := s.outer.isEmpty && s.classes == 0

end PatternState

/-- Why a text cannot serve as a pattern, if it cannot. -/
def patternFault? (cs : List Char) : Option PatternFault :=
  match PatternState.start.readAll cs with
  | none => some .form
  | some s =>
    if !s.isClosed then some .form
    else if s.wordEdges then some .wordEdge
    else none

end Fanout.Log
