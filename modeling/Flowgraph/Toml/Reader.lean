import Flowgraph.Toml.Literal
import Flowgraph.Toml.Table

/-!
# Reading settings files

`Toml.read?` turns the text of a settings file into data, or says that the text is none.  A file is
a sequence of lines, each blank or with a header or a member, and each may end in a comment.  The
readers of parts give the part and the text behind it.
-/

namespace Flowgraph.Toml

/-! ### Blanks, comments and line ends -/

/-- A blank within a line. -/
def isBlank (c : Char) : Bool := c = ' ' || c = '\t'

/-- The text without the blanks at its start. -/
def skipBlanks (cs : List Char) : List Char := cs.dropWhile isBlank

/-- A character that may stand in a comment or between quotes as it is. -/
def isPlain (c : Char) : Bool := c = '\t' || (' ' ≤ c && c != '\x7f')

/-- The text behind a line end, if it starts with one. -/
def lineEnd? : List Char → Option (List Char)
  | '\n' :: rest => some rest
  | '\r' :: '\n' :: rest => some rest
  | _ => none

/-- The text without the comment at its start. -/
def skipComment : List Char → List Char
  | '#' :: rest => rest.dropWhile isPlain
  | cs => cs

/-- The text behind the end of the line, nothing but blanks and a comment standing before it. -/
def restOfLine? (cs : List Char) : Option (List Char) :=
  match skipComment (skipBlanks cs) with
  | [] => some []
  | cs => lineEnd? cs

/-- The text behind blanks, comments and line ends.  Each line consumes a character of it, so `fuel`
beyond its length is never used up. -/
def skipLines (fuel : Nat) (cs : List Char) : List Char :=
  match fuel with
  | 0 => cs
  | fuel + 1 =>
    match lineEnd? (skipComment (skipBlanks cs)) with
    | some rest => skipLines fuel rest
    | none => skipBlanks cs

/-! ### Quoted text -/

/-- The character with this code point, if there is one. -/
def scalar? (n : Nat) : Option Char := if n.isValidChar then some (Char.ofNat n) else none

/-- The value of hexadecimal digits. -/
def hex? (cs : List Char) : Option Nat :=
  cs.foldlM (fun n c => (Tree.hexDigit? c).map (n * 16 + ·)) 0

/-- The character that an escape of one letter stands for. -/
def plainEscape? : Char → Option Char
  | 'b' => some '\x08'
  | 't' => some '\t'
  | 'n' => some '\n'
  | 'f' => some '\x0c'
  | 'r' => some '\r'
  | '"' => some '"'
  | '\\' => some '\\'
  | _ => none

/-- The text of one line up to the double quote that closes it, last character first. -/
def basicText (done : List Char) : List Char → Option (List Char × List Char)
  | [] => none
  | '"' :: rest => some (done, rest)
  | '\\' :: 'u' :: a :: b :: c :: d :: rest => do
    let c ← (hex? [a, b, c, d]).bind scalar?
    basicText (c :: done) rest
  | '\\' :: 'U' :: a :: b :: c :: d :: e :: f :: g :: h :: rest => do
    let c ← (hex? [a, b, c, d, e, f, g, h]).bind scalar?
    basicText (c :: done) rest
  | '\\' :: e :: rest => do
    let c ← plainEscape? e
    basicText (c :: done) rest
  | c :: rest => if isPlain c && c != '\\' then basicText (c :: done) rest else none

/-- The text of one line up to the single quote that closes it, last character first. -/
def literalText (done : List Char) : List Char → Option (List Char × List Char)
  | [] => none
  | '\'' :: rest => some (done, rest)
  | c :: rest => if isPlain c then literalText (c :: done) rest else none

/-- The quotes at the start of a text. -/
def quotesAtStart (q : Char) (cs : List Char) : Nat := (cs.takeWhile (· == q)).length

/-- A backslash stands at the end of its line. -/
def endsLine (cs : List Char) : Bool := (lineEnd? (skipBlanks cs)).isSome

/-- **The text of several lines** up to the three quotes that close it, last character first.  Two
more quotes may stand before these.  With double quotes, a backslash at the end of a line makes the
line end and all blanks and line ends behind it vanish; `vanishing` says that this goes on. -/
def linesText (q : Char) (vanishing : Bool) (done : List Char) :
    List Char → Option (List Char × List Char)
  | [] => none
  | '\r' :: '\n' :: rest => linesText q vanishing (if vanishing then done else '\n' :: done) rest
  | '\n' :: rest => linesText q vanishing (if vanishing then done else '\n' :: done) rest
  | '\\' :: 'u' :: a :: b :: c :: d :: rest =>
    if q = '"' then do
      let c ← (hex? [a, b, c, d]).bind scalar?
      linesText q false (c :: done) rest
    else linesText q false ('\\' :: done) ('u' :: a :: b :: c :: d :: rest)
  | '\\' :: 'U' :: a :: b :: c :: d :: e :: f :: g :: h :: rest =>
    if q = '"' then do
      let c ← (hex? [a, b, c, d, e, f, g, h]).bind scalar?
      linesText q false (c :: done) rest
    else linesText q false ('\\' :: done) ('U' :: a :: b :: c :: d :: e :: f :: g :: h :: rest)
  | '\\' :: e :: rest =>
    if q = '"' then
      if endsLine (e :: rest) then linesText q true done (e :: rest)
      else do
        let c ← plainEscape? e
        linesText q false (c :: done) rest
    else linesText q false ('\\' :: done) (e :: rest)
  | c :: rest =>
    if c = q then
      let n := min 5 (quotesAtStart q (c :: rest))
      if 3 ≤ n then some (List.replicate (n - 3) q ++ done, rest.drop (n - 1))
      else linesText q false (c :: done) rest
    else if vanishing && isBlank c then linesText q true done rest
    else if isPlain c then linesText q false (c :: done) rest
    else none

/-- The text without the line end at its start. -/
def skipLineEnd (cs : List Char) : List Char := (lineEnd? cs).getD cs

/-- The text that was gathered last character first. -/
def gathered : List Char × List Char → String × List Char
  | (done, rest) => (String.ofList done.reverse, rest)

/-- **A quoted text**, on one line between single quotes or on several between triple ones. -/
def readText? : List Char → Option (String × List Char)
  | '"' :: '"' :: '"' :: rest => (linesText '"' false [] (skipLineEnd rest)).map gathered
  | '"' :: rest => (basicText [] rest).map gathered
  | '\'' :: '\'' :: '\'' :: rest => (linesText '\'' false [] (skipLineEnd rest)).map gathered
  | '\'' :: rest => (literalText [] rest).map gathered
  | _ => none

/-! ### Keys -/

/-- A character of a key without quotes. -/
def isBare (c : Char) : Bool := c.isAlphanum || c = '_' || c = '-'

/-- One part of a key. -/
def readPart? : List Char → Option (String × List Char)
  | '"' :: rest => (basicText [] rest).map gathered
  | '\'' :: rest => (literalText [] rest).map gathered
  | cs =>
    let part := cs.takeWhile isBare
    if part.isEmpty then none else some (String.ofList part, cs.drop part.length)

/-- Keys have fewer parts than this, and lists and tables nest less deep. -/
def depthLimit : Nat := 80

/-- The parts of a key, with the blanks around each.  Each part consumes a character, so `fuel`
beyond the length of the text is never used up. -/
def readParts? (fuel : Nat) (cs : List Char) : Option (List String × List Char) :=
  match fuel with
  | 0 => none
  | fuel + 1 => do
    let (part, rest) ← readPart? (skipBlanks cs)
    match skipBlanks rest with
    | '.' :: rest => do
      let (parts, rest) ← readParts? fuel rest
      return (part :: parts, rest)
    | rest => return ([part], rest)

/-- **A key**: the parts before its last one, its last one, and the text behind it. -/
def readKey? (cs : List Char) : Option (List String × String × List Char) := do
  let (parts, rest) ← readParts? (cs.length + 1) cs
  let last ← parts.getLast?
  if parts.length < depthLimit then some (parts.dropLast, last, rest) else none

/-! ### Values -/

/-- A character of a literal. -/
def isWordChar (c : Char) : Bool := isBare c || c = '+' || c = '.' || c = ':'

/-- The word at the start of a text; a date may have its time behind a blank. -/
def takeWord (cs : List Char) : List Char :=
  let word := cs.takeWhile isWordChar
  match cs.drop word.length with
  | ' ' :: rest =>
    if Literal.date? word == some [] && rest.head?.any Char.isDigit then
      word ++ ' ' :: rest.takeWhile isWordChar
    else word
  | _ => word

mutual

/-- The value at the start of a text, inside `depth` lists and tables.  Each value consumes a
character, so `fuel` beyond three times the length of the text is never used up. -/
def readValue? (fuel depth : Nat) (cs : List Char) : Option (Tree × List Char) :=
  match fuel with
  | 0 => none
  | fuel + 1 =>
    match cs with
    | [] => none
    | c :: rest =>
      if c = '"' || c = '\'' then (readText? cs).map fun (s, rest) => (.str s, rest)
      else if c = '[' then
        if depth + 1 < depthLimit then do
          let (items, rest) ← readItems? fuel (depth + 1) rest
          return (.arr items .lenient, rest)
        else none
      else if c = '\x7b' then
        if depth + 1 < depthLimit then
          match skipBlanks rest with
          | '\x7d' :: rest => some (.obj [] .strict, rest)
          | rest => do
            let (ms, rest) ← readMembers? fuel (depth + 1) [] rest
            return (ms.toTree, rest)
        else none
      else
        let word := takeWord cs
        (Literal.read? word).map fun t => (t, cs.drop word.length)

/-- The items of a list from behind its bracket or a comma; a comma may stand behind the last. -/
def readItems? (fuel depth : Nat) (cs : List Char) : Option (List Tree × List Char) :=
  match fuel with
  | 0 => none
  | fuel + 1 =>
    match skipLines cs.length cs with
    | ']' :: rest => some ([], rest)
    | cs => do
      let (t, rest) ← readValue? fuel depth cs
      match skipLines rest.length rest with
      | ',' :: rest => do
        let (items, rest) ← readItems? fuel depth rest
        return (t :: items, rest)
      | ']' :: rest => return ([t], rest)
      | _ => none

/-- The members of a table on one line, added to those found before.  No comma stands behind the
last. -/
def readMembers? (fuel depth : Nat) (done : Members) (cs : List Char) :
    Option (Members × List Char) :=
  match fuel with
  | 0 => none
  | fuel + 1 => do
    let (path, key, rest) ← readKey? cs
    let rest ← Instant.behind? '=' rest
    let (t, rest) ← readValue? fuel depth (skipBlanks rest)
    let done ← Members.assign path key t done
    match skipBlanks rest with
    | ',' :: rest => readMembers? fuel depth done rest
    | '\x7d' :: rest => return (done, rest)
    | _ => none

end

/-! ### Files -/

/-- **The lines of a file**, `header` being the last header before them.  Each line consumes a
character, so `fuel` beyond the length of the text is never used up. -/
def readLines? (fuel : Nat) (header : List String) (done : Members) (cs : List Char) :
    Option Members :=
  match fuel with
  | 0 => none
  | fuel + 1 =>
    match skipLines cs.length cs with
    | [] => some done
    | '#' :: rest => if (rest.dropWhile isPlain).isEmpty then some done else none
    | '[' :: '[' :: rest => do
      let (path, key, rest) ← readKey? rest
      let rest ← (Instant.behind? ']' rest).bind (Instant.behind? ']')
      let rest ← restOfLine? rest
      let done ← Members.addToList path key done
      readLines? fuel (path ++ [key]) done rest
    | '[' :: rest => do
      let (path, key, rest) ← readKey? rest
      let rest ← Instant.behind? ']' rest
      let rest ← restOfLine? rest
      let done ← Members.addTable path key done
      readLines? fuel (path ++ [key]) done rest
    | rest => do
      let (path, key, rest) ← readKey? rest
      let rest ← Instant.behind? '=' rest
      let rest := skipBlanks rest
      let (t, rest) ← readValue? (3 * rest.length + 3) 0 rest
      let rest ← restOfLine? rest
      let done ← Members.inside header (Members.assign path key t) done
      readLines? fuel header done rest

/-- **The data of a settings file**, which may begin with a byte order mark. -/
def read? (s : String) : Option Tree :=
  let cs :=
    match s.toList with
    | '\uFEFF' :: rest => rest
    | cs => cs
  (readLines? (cs.length + 1) [] [] cs).map Members.toTree

end Flowgraph.Toml
