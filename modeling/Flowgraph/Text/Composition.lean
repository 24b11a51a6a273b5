import Flowgraph.Text.CompositionTable
import Flowgraph.Text.LowerCase
import Flowgraph.Text.MarkTables

/-!
# Composition

A letter with marks can be spelled as one character or as several.  `Text.composed` gives the
spelling with the fewest characters, and with the marks in the order of their classes, so that texts
that look the same become the same.
-/

namespace Flowgraph.Text

/-- The class of a code point in a table of marks. -/
def classIn? (table : List (Nat × Nat × Nat)) (n : Nat) : Option Nat :=
  (table.find? fun (first, last, _) => first ≤ n && n ≤ last).map (·.2.2)

/-- The mark takes no room of its own. -/
def isAttachedMark (c : Char) : Bool := 0x300 ≤ c.toNat && (classIn? attachedMarks c.toNat).isSome

/-- The character is a mark. -/
def isMark (c : Char) : Bool :=
  isAttachedMark c || (0x300 ≤ c.toNat && (classIn? spacingMarks c.toNat).isSome)

/-- **The combining class** of a character, zero unless it is a mark. -/
def combiningClass (c : Char) : Nat :=
  if c.toNat < 0x300 then 0
  else ((classIn? attachedMarks c.toNat).or (classIn? spacingMarks c.toNat)).getD 0

/-! ### Taking apart -/

/-- The first syllable of Hangul. -/
def firstSyllable : Nat := 0xAC00

/-- The first letter that a syllable of Hangul begins with. -/
def firstLead : Nat := 0x1100

/-- The first letter that stands second in a syllable. -/
def firstVowel : Nat := 0x1161

/-- The letter before the first one that stands last in a syllable. -/
def noTail : Nat := 0x11A7

/-- How many letters begin a syllable. -/
def leads : Nat := 19

/-- How many letters stand second. -/
def vowels : Nat := 21

/-- How many letters stand last, with none as one of them. -/
def tails : Nat := 28

/-- The letters of a syllable of Hangul. -/
def letters (n : Nat) : List Char :=
  let i := n - firstSyllable
  let two := [Char.ofNat (firstLead + i / tails / vowels),
    Char.ofNat (firstVowel + i / tails % vowels)]
  if i % tails = 0 then two else two ++ [Char.ofNat (noTail + i % tails)]

/-- The code point is a syllable of Hangul. -/
def isSyllable (n : Nat) : Bool := firstSyllable ≤ n && n < firstSyllable + leads * vowels * tails

/-- How deep the pairs of a composed character are nested at most. -/
def nesting : Nat := 3

/-- The characters of a code point whose pairs are nested no deeper than `depth`. -/
def partsWithin (depth n : Nat) : List Char :=
  match depth, compositions.find? (·.1 == n) with
  | depth + 1, some (_, a, b) => partsWithin depth a ++ [Char.ofNat b]
  | _, _ => [Char.ofNat n]

/-- The characters that a character is made of. -/
def parts (c : Char) : List Char :=
  if isSyllable c.toNat then letters c.toNat else partsWithin nesting c.toNat

/-- A mark moves behind those of lower classes. -/
def insertMark (c : Char) : List Char → List Char
  | [] => [c]
  | d :: rest =>
    if combiningClass d != 0 && combiningClass d < combiningClass c then d :: insertMark c rest
    else c :: d :: rest

/-- The text with its characters taken apart, the marks in order. -/
def decomposed (cs : List Char) : List Char :=
  (cs.flatMap fun c => if c.toNat < 0x80 then [c] else parts c).foldr insertMark []

/-! ### Putting together -/

/-- The syllable of Hangul that two characters make. -/
def syllable? (a b : Nat) : Option Nat :=
  if firstLead ≤ a && a < firstLead + leads && firstVowel ≤ b && b < firstVowel + vowels then
    some (firstSyllable + ((a - firstLead) * vowels + (b - firstVowel)) * tails)
  else if isSyllable a && (a - firstSyllable) % tails = 0 && noTail < b && b < noTail + tails then
    some (a + (b - noTail))
  else none

/-- What two characters make together. -/
def pair? (a b : Char) : Option Char :=
  ((syllable? a.toNat b.toNat).or
    ((compositions.find? fun (_, x, y) => x == a.toNat && y == b.toNat).map (·.1))).map Char.ofNat

/-- Joins to `base` what it makes a character with.  The marks that stay behind it, the last one
first, keep marks of their class and of lower ones from it. -/
def joined (base : Char) (behind : List Char) : List Char → List Char
  | [] => base :: behind.reverse
  | c :: rest =>
    let isNear := behind.head?.all fun d => combiningClass d < combiningClass c
    match if isNear then pair? base c else none with
    | some base => joined base behind rest
    | none =>
      if combiningClass c = 0 then base :: behind.reverse ++ joined c [] rest
      else joined base (c :: behind) rest

/-- The text with its characters put together. -/
def recomposed (cs : List Char) : List Char :=
  match cs.dropWhile fun c => combiningClass c != 0 with
  | c :: rest => cs.takeWhile (fun c => combiningClass c != 0) ++ joined c [] rest
  | [] => cs

/-- **The composed spelling** of a text. -/
def composed (cs : List Char) : List Char :=
  if cs.all (·.toNat < 0x300) then cs else recomposed (decomposed cs)

end Flowgraph.Text
