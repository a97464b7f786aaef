/-
  Fanout.Text.Escaped
  ───────────────────
  **Texts shown between double quotes.**

  Diagnostics show a text between double quotes with everything that does
  not print escaped: the backslash, the double quote, tab, carriage return,
  line feed and the null character by a letter of their own, any other
  character that is not printable, or that would combine with its
  neighbour, by its hexadecimal code in braces.
-/
import Fanout.Text.Printable

namespace Fanout.Text

/-- The hexadecimal digits of a number, without leading zeros. -/
def hexDigits (n : Nat) : List Char := Nat.toDigits 16 n

/-- How `c` appears inside double quotes; `single` tells whether single quotes are
escaped as well. -/
def escapedChar (single : Bool) (c : Char) : List Char :=
  if c = '\x00' then ['\\', '0']
  else if c = '\t' then ['\\', 't']
  else if c = '\r' then ['\\', 'r']
  else if c = '\n' then ['\\', 'n']
  else if c = '\\' then ['\\', '\\']
  else if c = '"' then ['\\', '"']
  else if c = '\'' then (if single then ['\\', '\''] else ['\''])
  else if decide (0x20 ≤ c.toNat) && decide (c.toNat < 0x7F) then [c]
  else if extendsGrapheme c || !isPrintable c then
    ['\\', 'u', '\x7b'] ++ hexDigits c.toNat ++ ['\x7d']
  else [c]

/-- A text between double quotes, escaped. -/
def escaped (s : String) : String :=
  String.ofList ('"' :: (s.toList.flatMap (escapedChar false) ++ ['"']))

/-- A path between double quotes: single quotes are escaped too. -/
def escapedPath (s : String) : String :=
  String.ofList ('"' :: (s.toList.flatMap (escapedChar true) ++ ['"']))

end Fanout.Text
