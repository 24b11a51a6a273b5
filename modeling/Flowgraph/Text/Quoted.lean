import Flowgraph.Text.LowerCase
import Flowgraph.Text.EscapeTables

/-!
# Quoted text in messages

A text inside a message stands between double quotes.  Quotes, backslashes and the usual controls
get a backslash, and a character that would not show on its own is spelled out in hexadecimal.
-/

namespace Flowgraph.Text

/-- The hexadecimal digits of a number, in lower case. -/
def hex (n : Nat) : String := String.ofList (Nat.toDigits 16 n)

/-- How one character is written between the quotes. -/
def quotedChar (c : Char) : String :=
  if c = '"' then "\\\""
  else if c = '\\' then "\\\\"
  else if c = '\n' then "\\n"
  else if c = '\r' then "\\r"
  else if c = '\t' then "\\t"
  else if c = '\x00' then "\\0"
  else if c.toNat < 0x7F && 0x20 ≤ c.toNat then c.toString
  else if inRanges escapedRanges c.toNat then "\\u" ++ "\x7b" ++ hex c.toNat ++ "\x7d"
  else c.toString

/-- A text between double quotes. -/
def quoted (s : String) : String :=
  "\"" ++ String.join (s.toList.map quotedChar) ++ "\""

end Flowgraph.Text
