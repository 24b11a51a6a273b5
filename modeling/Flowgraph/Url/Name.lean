import Flowgraph.Text.Composition
import Flowgraph.Text.EscapeTables
import Flowgraph.Url.NameTables
import Flowgraph.Url.Punycode
import Flowgraph.Url.ScriptTables

/-!
# Names of hosts

The name of a host is a list of labels with dots between them.  A label may hold letters of any
script; `Name.ascii?` gives the form of the name in which all labels are ASCII, or nothing if the
text is no name.  Names that differ in case, or in another way that the tables tell of, have the
same form.
-/

namespace Flowgraph.Url

/-! ### Characters -/

/-- What the characters of the blocks count as. -/
def foldingBlocks : List (Nat × List String) :=
  foldings.map fun (n, texts) => (n, texts.splitOn " ")

/-- What a character counts as, if a block tells it. -/
def blockFolding? (n : Nat) : Option String :=
  match foldingBlocks.find? fun (first, texts) => first ≤ n && n < first + texts.length with
  | some (first, texts) => texts[n - first]?
  | none => none

/-- A character of ASCII that no name holds. -/
def isDelimiter (c : Char) : Bool :=
  c.toNat ≤ 0x20 || c.toNat = 0x7F || "%#/:<>?@[\\]^|".toList.contains c

/-- A letter of Cherokee, whose capitals are the common ones. -/
def isCherokee (n : Nat) : Bool := 0x13A0 ≤ n && n ≤ 0x13F5

/-- A character that joins its neighbours, or keeps them apart. -/
def isJoiner (c : Char) : Bool := c.toNat = 0x200C || c.toNat = 0x200D

/-- No name holds the character. -/
def isRefused (c : Char) : Bool :=
  Text.inRanges refusedRanges c.toNat
    || (Text.inRanges Text.escapedRanges c.toNat && !Text.isMark c && !isJoiner c)

/-- **What a character of a name counts as**, if names may hold it. -/
def folded? (c : Char) : Option (List Char) :=
  let n := c.toNat
  if n < 0x80 then if isDelimiter c then none else some [c.toLower]
  else if Text.inRanges ignoredRanges n then some []
  else
    match blockFolding? n with
    | some text => some text.toList
    | none =>
      if isRefused c then none
      else some [if isCherokee n then c else Char.ofNat (Text.lowerCode n)]

/-! ### Directions -/

/-- How a character runs. -/
def direction (c : Char) : Direction :=
  match directionRuns.find? fun (first, last, _) => first ≤ c.toNat && c.toNat ≤ last with
  | some (_, _, d) => d
  | none => if Text.isAttachedMark c then .mark else .left

/-- A character of a script that runs from the right. -/
def Direction.isRight (d : Direction) : Bool := d = .right || d = .arabicNumber

/-- A label that runs one way: it begins with a letter, holds no letter that runs the other way, and
ends with a letter or a digit, marks aside.  From the right it holds digits of one kind only. -/
def isOneWay (label : List Char) : Bool :=
  let ds := label.map direction
  let last := (ds.reverse.find? (· != .mark)).getD .mark
  match ds.head? with
  | none => true
  | some .left => !ds.any Direction.isRight && (last = .left || last = .number)
  | some .right =>
    !ds.contains .left && (last.isRight || last = .number)
      && !(ds.contains .number && ds.contains .arabicNumber)
  | some _ => false

/-! ### Joiners -/

/-- How a letter joins, if it does. -/
def joining? (c : Char) : Option Joining :=
  (joiningRuns.find? fun (first, last, _) => first ≤ c.toNat && c.toNat ≤ last).map (·.2.2)

/-- Letters join across the character. -/
def isTransparent (c : Char) : Bool := Text.isAttachedMark c || c.toNat = 0x1E94B

/-- The nearest letter joins on the side given, or on both. -/
def joinsOn (side : Joining) (cs : List Char) : Bool :=
  ((cs.find? fun c => !isTransparent c).bind joining?).any fun j => j = side || j = .dual

/-- The class of the marks that silence the vowel of a letter. -/
def silencingClass : Nat := 9

/-- **Each joiner has something to do**: it stands behind a mark that silences a vowel, or it keeps
two letters apart that would join.  The characters before are given backwards. -/
def areJoinersUsed (before : List Char) : List Char → Bool
  | [] => true
  | c :: rest =>
    (!isJoiner c || (before.head?.any fun b => Text.combiningClass b = silencingClass)
        || (c.toNat = 0x200C && joinsOn .left before && joinsOn .right rest))
      && areJoinersUsed (c :: before) rest

/-! ### Labels -/

/-- **A label of a name.** -/
structure Label where
  /-- With the letters of its scripts. -/
  letters : List Char
  ascii : List Char
  deriving Repr

namespace Label

/-- What a label in the ASCII form begins with. -/
def mark : List Char := "xn--".toList

/-- How long an ASCII form may be, behind its mark. -/
def maxForm : Nat := 2000

/-- How many characters a label may have if they are not all ASCII. -/
def maxLetters : Nat := 1000

/-- The characters may stand together in a label. -/
def isSound (letters : List Char) : Bool :=
  !letters.head?.any Text.isMark && areJoinersUsed [] letters
    && (letters.all (·.toNat < 0x80) || letters.length ≤ maxLetters)

/-- The label that an ASCII form stands for; none of its letters counts as another one. -/
def ofForm? (ascii : List Char) : Option Label := do
  let form := ascii.drop mark.length
  if !form.all (·.toNat < 0x80) || ascii.getLast? = some '-' || maxForm < form.length then none
  let letters ← Punycode.decode? form
  if letters.all (fun c => folded? c == some [c]) && Text.composed letters = letters then
    some ⟨letters, ascii⟩
  else none

/-- The label of some letters. -/
def ofLetters (letters : List Char) : Label :=
  ⟨letters, if letters.all (·.toNat < 0x80) then letters else mark ++ Punycode.encode letters⟩

/-- **Reads a label** whose letters count as themselves. -/
def read? (letters : List Char) : Option Label := do
  let label ← if mark.isPrefixOf letters then ofForm? letters else some (ofLetters letters)
  if isSound label.letters then some label else none

end Label

/-! ### Names -/

namespace Name

/-- The labels of a name. -/
def labels? (cs : List Char) : Option (List Label) := do
  let folded := String.ofList (Text.composed (← cs.mapM folded?).flatten)
  (folded.splitOn ".").mapM fun label => Label.read? label.toList

/-- **The ASCII form of a name.**  If a letter of it runs from the right, all of its labels run one
way each. -/
def ascii? (cs : List Char) : Option String := do
  let labels ← labels? cs
  let runsRight := labels.any fun l => l.letters.any fun c => (direction c).isRight
  if runsRight && !labels.all (fun l => isOneWay l.letters) then none
  else some (".".intercalate (labels.map fun l => String.ofList l.ascii))

end Name

end Flowgraph.Url
