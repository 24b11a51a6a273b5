import Flowgraph.Json.Value

/-!
# Writing JSON text

`Json.compact` is the form with no blanks that is stored and put into messages, `Json.pretty` the
form with two blanks of indentation that is shown to people.
-/

namespace Flowgraph

namespace Json

/-- A control character without an escape of its own, in four hexadecimal digits. -/
def controlEscape (n : Nat) : String :=
  "\\u00" ++ String.ofList [Nat.digitChar (n / 16), Nat.digitChar (n % 16)]

/-- How one character is written inside a string: quotes, backslashes and controls are escaped and
nothing else is. -/
def writeChar (c : Char) : String :=
  if c = '"' then "\\\""
  else if c = '\\' then "\\\\"
  else if c = '\x08' then "\\b"
  else if c = '\x0c' then "\\f"
  else if c = '\n' then "\\n"
  else if c = '\r' then "\\r"
  else if c = '\t' then "\\t"
  else if c.toNat < 0x20 then controlEscape c.toNat
  else c.toString

/-- A string between its quotes. -/
def writeString (s : String) : String :=
  (s.toList.foldl (fun out c => out ++ writeChar c) "\"") ++ "\""

/-- The text of a number. -/
def writeNumber : Number → String
  | .int i => toString i
  | .real x => Layout.data.write x

mutual

/-- **The compact text** of a value. -/
def compact : Json → String
  | .null => "null"
  | .bool b => if b then "true" else "false"
  | .num n => writeNumber n
  | .str s => writeString s
  | .arr items => "[" ++ compactItems items ++ "]"
  | .obj members => "\x7b" ++ compactMembers members ++ "\x7d"

/-- The items of an array, with commas between them. -/
def compactItems : List Json → String
  | [] => ""
  | [j] => compact j
  | j :: rest => compact j ++ "," ++ compactItems rest

/-- The members of an object, with commas between them. -/
def compactMembers : List (String × Json) → String
  | [] => ""
  | [(k, j)] => writeString k ++ ":" ++ compact j
  | (k, j) :: rest => writeString k ++ ":" ++ compact j ++ "," ++ compactMembers rest

end

/-- A new line, indented for `depth` levels. -/
def newline (depth : Nat) : String := "\n" ++ String.ofList (List.replicate (2 * depth) ' ')

mutual

/-- **The indented text** of a value that stands `depth` levels deep. -/
def pretty (depth : Nat) : Json → String
  | .arr (j :: rest) => "[" ++ prettyItems (depth + 1) (j :: rest) ++ newline depth ++ "]"
  | .obj (m :: rest) =>
    "\x7b" ++ prettyMembers (depth + 1) (m :: rest) ++ newline depth ++ "\x7d"
  | j => compact j

/-- The items of an array, each on a line of its own. -/
def prettyItems (depth : Nat) : List Json → String
  | [] => ""
  | [j] => newline depth ++ pretty depth j
  | j :: rest => newline depth ++ pretty depth j ++ "," ++ prettyItems depth rest

/-- The members of an object, each on a line of its own. -/
def prettyMembers (depth : Nat) : List (String × Json) → String
  | [] => ""
  | [(k, j)] => newline depth ++ writeString k ++ ": " ++ pretty depth j
  | (k, j) :: rest =>
    newline depth ++ writeString k ++ ": " ++ pretty depth j ++ "," ++ prettyMembers depth rest

end

end Json

end Flowgraph
