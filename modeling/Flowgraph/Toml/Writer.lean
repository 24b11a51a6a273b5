import Flowgraph.Json.Tree

/-!
# Writing settings files

`Toml.write?` is the text of data as a settings file.  The members of a table that are not tables
themselves come first, one a line; each table within it follows under a header of its own.  A list
of tables has a header for each of them, and any other list of more than one item has a line for
each.  There is no text for `null`.
-/

namespace Flowgraph.Toml

/-! ### Text -/

/-- A control character that stands for itself nowhere: any but a tab and the end of a line. -/
def isControl (c : Char) : Bool := (c < ' ' && c != '\t' && c != '\n') || c = '\x7f'

/-- The longest run of a character, `n` being the length of the run at hand. -/
def longestRun (quote : Char) (n : Nat) : List Char → Nat
  | [] => n
  | c :: rest =>
    if c = quote then longestRun quote (n + 1) rest else max n (longestRun quote 0 rest)

/-- **The quotes around a text.** -/
inductive Quotes where
  /-- Double quotes, between which a backslash begins an escape. -/
  | basic
  /-- Single quotes, between which each character stands for itself. -/
  | literal
  /-- Three double quotes, between which lines may end and two double quotes may stand together. -/
  | basicLines
  /-- Three single quotes, between which lines may end and two single quotes may stand together. -/
  | literalLines
  deriving DecidableEq, Repr

/-- **The quotes that a text is given**: the first of the four that need no escapes, and double
quotes where each of them does. -/
def Quotes.around (cs : List Char) : Quotes :=
  let plain := !cs.any isControl
  let lines := cs.contains '\n'
  let doubles := longestRun '"' 0 cs
  let singles := longestRun '\'' 0 cs
  if plain && !cs.contains '\\' && doubles = 0 && !lines then basic
  else if plain && singles = 0 && !lines then literal
  else if plain && !cs.contains '\\' && doubles ≤ 2 then basicLines
  else if plain && singles ≤ 2 then literalLines
  else if lines then basicLines
  else basic

/-- Four hexadecimal digits, in upper case. -/
def hexWord (n : Nat) : String :=
  let digits := (Nat.toDigits 16 n).map Char.toUpper
  String.ofList (List.replicate (4 - digits.length) '0' ++ digits)

/-- How a character other than a double quote is written between double quotes; `onLines` says that
a line end stands for itself. -/
def escaped (onLines : Bool) (c : Char) : String :=
  if c = '\x08' then "\\b"
  else if c = '\t' then "\\t"
  else if c = '\n' then (if onLines then "\n" else "\\n")
  else if c = '\x0c' then "\\f"
  else if c = '\r' then "\\r"
  else if c = '\\' then "\\\\"
  else if isControl c then "\\u" ++ hexWord c.toNat
  else c.toString

/-- What stands between double quotes, `n` double quotes standing together before it: of three in a
row the last has a backslash, and so has each where lines may not end. -/
def basicBody (onLines : Bool) (n : Nat) : List Char → String
  | [] => ""
  | c :: rest =>
    if c = '"' then
      if onLines && n < 2 then "\"" ++ basicBody onLines (n + 1) rest
      else "\\\"" ++ basicBody onLines 0 rest
    else escaped onLines c ++ basicBody onLines 0 rest

/-- A text between three quotes; one with several lines begins on a line of its own. -/
def onLines (quotes : String) (cs : List Char) (body : String) : String :=
  quotes ++ (if cs.contains '\n' then "\n" else "") ++ body ++ quotes

/-- A text between double quotes. -/
def basicQuoted (cs : List Char) : String := "\"" ++ basicBody false 0 cs ++ "\""

/-- **A text.** -/
def textOf (s : String) : String :=
  let cs := s.toList
  match Quotes.around cs with
  | .basic => basicQuoted cs
  | .literal => "'" ++ s ++ "'"
  | .basicLines => onLines "\"\"\"" cs (basicBody true 0 cs)
  | .literalLines => onLines "'''" cs s

/-- A key stands without quotes if it has nothing but letters, digits, `_` and `-`. -/
def isBareKey (cs : List Char) : Bool :=
  !cs.isEmpty && cs.all fun c => c.isAlphanum || c = '_' || c = '-'

/-- **A key**, between single quotes where that saves escapes. -/
def keyOf (s : String) : String :=
  let cs := s.toList
  let plain := cs.all fun c => !isControl c && c != '\n'
  if isBareKey cs then s
  else if plain && (cs.contains '"' || cs.contains '\\') && !cs.contains '\'' then "'" ++ s ++ "'"
  else basicQuoted cs

/-! ### Values -/

/-- A value that stands outside the numbers. -/
def specialText : Extended .double → String
  | .finite x => Layout.pointed.write x
  | .infinite negative => if negative then "-inf" else "inf"
  | .nan => "nan"

/-- A list: one item stands on the line of the brackets, more have a line each. -/
def listText : List String → String
  | [] => "[]"
  | [item] => "[" ++ item ++ "]"
  | items => "[" ++ String.join (items.map fun item => "\n    " ++ item ++ ",") ++ "\n]"

/-- A table on one line. -/
def inlineText (members : List String) : String :=
  if members.isEmpty then "\x7b\x7d" else "\x7b " ++ ", ".intercalate members ++ " \x7d"

mutual

/-- A value on the line of its key. -/
def value? : Tree → Option String
  | .null | .unreadable | .broken => none
  | .bool b => some (if b then "true" else "false")
  | .num (.int i) => some (toString i)
  | .num (.real x) => some (Layout.pointed.write x)
  | .special x => some (specialText x)
  | .str s => some (textOf s)
  | .arr ts _ => (items? ts).map listText
  | .obj ms _ => (pairs? ms).map inlineText

/-- The items of a list. -/
def items? : List Tree → Option (List String)
  | [] => some []
  | t :: rest => do
    let text ← value? t
    let texts ← items? rest
    return text :: texts

/-- The members of a table, each with its key. -/
def pairs? : List (String × Tree) → Option (List String)
  | [] => some []
  | (k, t) :: rest => do
    let text ← value? t
    let texts ← pairs? rest
    return (keyOf k ++ " = " ++ text) :: texts

end

/-! ### Tables -/

/-- The tree is a table. -/
def isTable : Tree → Bool
  | .obj _ _ => true
  | _ => false

/-- The tree gets headers: it is a table, or a list of tables and of nothing else. -/
def hasHeader : Tree → Bool
  | .obj _ _ => true
  | .arr ts _ => !ts.isEmpty && ts.all isTable
  | _ => false

/-- The lines of a table's own members. -/
def lines? (ms : List (String × Tree)) : Option String :=
  (pairs? (ms.filter fun m => !hasHeader m.2)).map fun lines =>
    String.join (lines.map (· ++ "\n"))

/-- The path of a table, as it stands in its header. -/
def pathText (path : List String) : String := ".".intercalate (path.map keyOf)

/-- A table under its header.  A table that has nothing but tables in it needs none. -/
def headed (path : List String) (ms : List (String × Tree)) (lines : String) : List String :=
  if lines.isEmpty && !ms.isEmpty then [] else ["[" ++ pathText path ++ "]\n" ++ lines]

mutual

/-- The tables among the members of the table at a path, each with the lines of its own. -/
def blocks? (path : List String) : List (String × Tree) → Option (List String)
  | [] => some []
  | (k, .obj ms _) :: rest => do
    let lines ← lines? ms
    let inner ← blocks? (path ++ [k]) ms
    let others ← blocks? path rest
    return headed (path ++ [k]) ms lines ++ inner ++ others
  | (k, .arr ts closing) :: rest => do
    let inner ← if hasHeader (.arr ts closing) then listBlocks? (path ++ [k]) ts else some []
    let others ← blocks? path rest
    return inner ++ others
  | _ :: rest => blocks? path rest

/-- The tables of the list at a path. -/
def listBlocks? (path : List String) : List Tree → Option (List String)
  | [] => some []
  | .obj ms _ :: rest => do
    let lines ← lines? ms
    let inner ← blocks? path ms
    let others ← listBlocks? path rest
    return ("[[" ++ pathText path ++ "]]\n" ++ lines) :: inner ++ others
  | _ :: rest => listBlocks? path rest

end

/-- **The text of a settings file**, if the data has one. -/
def write? (ms : List (String × Tree)) : Option String := do
  let lines ← lines? ms
  let inner ← blocks? [] ms
  return "\n".intercalate (if lines.isEmpty then inner else lines :: inner)

end Flowgraph.Toml
