/-!
# Punycode

A label that is not all ASCII is written with the letters of ASCII alone: first those characters of
it that are ASCII, then a hyphen, then for each other character a number that tells which one it is
and where it stands.  Characters are told in the order of the code, and the numbers count the
places that are passed on the way from one to the next.

A number is written with digits to the base 36, the lowest first.  Which digits end a number depends
on a bias, which follows the size of the numbers before it.
-/

namespace Flowgraph.Url.Punycode

/-! ### Numbers -/

/-- The digit of a value. -/
def digit (n : Nat) : Char := Char.ofNat (if n < 26 then 0x61 + n else 0x30 + (n - 26))

/-- The value of a digit. -/
def digitValue? (c : Char) : Option Nat :=
  if c.isDigit then some (c.toNat - 0x30 + 26)
  else if c.isAlpha then some (c.toLower.toNat - 0x61)
  else none

/-- A digit below this ends a number; `place` is 36 for the first digit, 72 for the next. -/
def threshold (bias place : Nat) : Nat := max 1 (min 26 (place - bias))

theorem one_le_threshold (bias place : Nat) : 1 ≤ threshold bias place := by
  unfold threshold
  omega

/-- The digits of a number from a place on. -/
def digits (bias place n : Nat) : List Char :=
  let t := threshold bias place
  if n < t then [digit n]
  else digit (t + (n - t) % (36 - t)) :: digits bias (place + 36) ((n - t) / (36 - t))
termination_by n
decreasing_by
  have := one_le_threshold bias place
  exact Nat.lt_of_le_of_lt (Nat.div_le_self _ _) (by omega)

/-- The bias for numbers of about a size, of which each part of 35 counts for a place. -/
def settled (bias size : Nat) : Nat :=
  if 455 < size then settled (bias + 36) (size / 35) else bias + 36 * size / (size + 38)
termination_by size
decreasing_by exact Nat.div_lt_self (by omega) (by omega)

/-- **The bias after a number.**  There are `count` characters so far; the first number of a label
is expected to be far greater than the others. -/
def adapted (n count : Nat) (isFirst : Bool) : Nat :=
  let n := if isFirst then n / 700 else n / 2
  settled 0 (n + n / count)

/-- The bias for the first number. -/
def firstBias : Nat := 72

/-- The first code point that is not of ASCII. -/
def firstCode : Nat := 0x80

/-! ### Writing -/

/-- What has been written of a label. -/
structure Progress where
  /-- How many characters have been told. -/
  count : Nat
  /-- How many places have been passed since the last one. -/
  passed : Nat
  bias : Nat
  /-- The numbers written so far. -/
  written : List Char

/-- Passes a character of the label while the characters of code `n` are told; `basic` of the
characters are ASCII. -/
def Progress.pass (basic n : Nat) (p : Progress) (c : Char) : Progress :=
  if c.toNat < n then { p with passed := p.passed + 1 }
  else if c.toNat = n then
    ⟨p.count + 1, 0, adapted p.passed (p.count + 1) (p.count = basic),
      p.written ++ digits p.bias 36 p.passed⟩
  else p

/-- The codes that are not of ASCII, in order. -/
def codes (cs : List Char) : List Nat :=
  ((cs.map Char.toNat).filter (firstCode ≤ ·)).mergeSort.eraseDups

/-- **The ASCII form of a label.** -/
def encode (cs : List Char) : List Char :=
  let basic := cs.filter (·.toNat < firstCode)
  let start : Progress := ⟨basic.length, 0, firstBias, []⟩
  let (p, _) := (codes cs).foldl (fun (p, code) n =>
    let p := { p with passed := p.passed + (n - code) * (p.count + 1) }
    let p := cs.foldl (Progress.pass basic.length n) p
    ({ p with passed := p.passed + 1 }, n + 1)) (start, firstCode)
  basic ++ (if basic.isEmpty then [] else ['-']) ++ p.written

/-! ### Reading -/

/-- Reads numbers and puts the characters that they tell into `label`.  The last character told has
the code `code`; since then `sum` places have been passed, `before` of them by the numbers read to
their end; a digit at this place counts `weight` times. -/
def insert? (label : List Char) (code sum before bias weight place : Nat) :
    List Char → Option (List Char)
  | [] => if place = 36 then some label else none
  | c :: rest => do
    let d ← digitValue? c
    let sum := sum + d * weight
    let t := threshold bias place
    if d < t then
      let count := label.length + 1
      let code := code + sum / count
      let index := sum % count
      if code.isValidChar then
        insert? (label.take index ++ Char.ofNat code :: label.drop index) code (index + 1)
          (index + 1) (adapted (sum - before) count (before = 0)) 1 36 rest
      else none
    else insert? label code sum before bias (weight * (36 - t)) (place + 36) rest

/-- **The label of an ASCII form**, if it is one. -/
def decode? (cs : List Char) : Option (List Char) :=
  let numbers := (cs.reverse.takeWhile (· != '-')).reverse
  let basic := cs.take (cs.length - numbers.length - 1)
  if cs.head? = some '-' && basic.isEmpty then none
  else insert? basic firstCode 0 0 firstBias 1 36 numbers

end Flowgraph.Url.Punycode
