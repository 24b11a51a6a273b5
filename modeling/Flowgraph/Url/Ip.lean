/-!
# Numbers of hosts

A host can be given by a number instead of a name.  A number of 32 bits is written as four bytes
with dots between them, and may be read from fewer parts, of which each may be octal or hexadecimal.
A number of 128 bits is written as eight groups with colons between them, where the longest run of
zeros is left out.
-/

namespace Flowgraph.Url

/-- The parts of a text between the places of a separator. -/
def partsAt (c : Char) (cs : List Char) : List (List Char) :=
  ((String.ofList cs).splitOn c.toString).map String.toList

/-- The value of a digit in a base up to 16. -/
def digitIn? (base : Nat) (c : Char) : Option Nat :=
  let value? :=
    if c.isDigit then some (c.toNat - '0'.toNat)
    else if 'a' ≤ c.toLower && c.toLower ≤ 'f' then some (c.toLower.toNat - 'a'.toNat + 10)
    else none
  value?.filter (· < base)

/-- The number with these digits; without any it is zero. -/
def numberIn? (base : Nat) (cs : List Char) : Option Nat :=
  cs.foldlM (fun n c => (digitIn? base c).map (n * base + ·)) 0

/-! ### Numbers of 32 bits -/

/-- A part of a number: hexadecimal behind `0x`, octal behind another zero, decimal otherwise. -/
def ipPart? : List Char → Option Nat
  | [] => none
  | '0' :: x :: rest => if x = 'x' || x = 'X' then numberIn? 16 rest else numberIn? 8 (x :: rest)
  | cs => numberIn? 10 cs

/-- The parts of a host, without an empty one at the end. -/
def ipParts (host : List Char) : List (List Char) :=
  let parts := partsAt '.' host
  if parts.getLast? = some [] then parts.dropLast else parts

/-- **The host is meant as a number**: its last part is one, or looks like one. -/
def endsInNumber (host : List Char) : Bool :=
  match (ipParts host).getLast? with
  | some part => !part.isEmpty && part.all Char.isDigit || (ipPart? part).isSome
  | none => false

/-- Reads the number of a host.  Each part but the last is a byte, and the last one gives the bytes
that are left. -/
def ip4? (host : List Char) : Option Nat := do
  let parts ← (ipParts host).mapM ipPart?
  let last ← parts.getLast?
  let bytes := parts.dropLast
  let left := 4 - bytes.length
  if bytes.length < 4 && bytes.all (· < 256) && last < Nat.pow 256 left then
    some (bytes.foldl (fun n b => n * 256 + b) 0 * Nat.pow 256 left + last)
  else none

/-- The four bytes of a number, with dots. -/
def ip4Text (n : Nat) : String :=
  ".".intercalate ([n / 16777216, n / 65536 % 256, n / 256 % 256, n % 256].map toString)

/-! ### Numbers of 128 bits -/

/-- A byte in decimal, without zeros in front. -/
def byte? (cs : List Char) : Option Nat :=
  if cs.isEmpty || (cs.head? = some '0' && cs.length != 1) then none
  else (numberIn? 10 cs).filter (· < 256)

/-- A group: up to four hexadecimal digits. -/
def group? (cs : List Char) : Option Nat :=
  if cs.isEmpty || 4 < cs.length then none else numberIn? 16 cs

/-- Two groups given as four bytes. -/
def byteGroups? (cs : List Char) : Option (List Nat) := do
  match ← (partsAt '.' cs).mapM byte? with
  | [a, b, c, d] => some [a * 256 + b, c * 256 + d]
  | _ => none

/-- The groups of some parts; the last two may be given as four bytes. -/
def groupsOf? : List (List Char) → Option (List Nat)
  | [] => some []
  | [part] => if part.contains '.' then byteGroups? part else (group? part).map ([·])
  | part :: rest => do return (← group? part) :: (← groupsOf? rest)

/-- The groups of a text, which may be empty. -/
def groups? (cs : List Char) : Option (List Nat) :=
  if cs.isEmpty then some [] else groupsOf? (partsAt ':' cs)

/-- What stands before and behind the first two colons in a row. -/
def splitAtGap? : List Char → Option (List Char × List Char)
  | ':' :: ':' :: rest => some ([], rest)
  | c :: rest => (splitAtGap? rest).map fun (before, behind) => (c :: before, behind)
  | [] => none

/-- **Reads eight groups.**  Two colons in a row stand for the zeros that are left out. -/
def ip6? (cs : List Char) : Option (List Nat) :=
  match splitAtGap? cs with
  | none => (groups? cs).filter fun groups => groups.length = 8
  | some (before, behind) => do
    if before.contains '.' then none
    let before ← groups? before
    let behind ← groups? behind
    if before.length + behind.length < 8 then
      some (before ++ List.replicate (8 - before.length - behind.length) 0 ++ behind)
    else none

/-- How many zeros stand at the start. -/
def zeros (groups : List Nat) : Nat := (groups.takeWhile (· = 0)).length

/-- The first of the longest runs of two zeros or more: where it begins, and its length. -/
def gap? (groups : List Nat) : Option (Nat × Nat) :=
  (List.range groups.length).foldl (fun best i =>
    let n := zeros (groups.drop i)
    if n < 2 || best.any (fun b => n ≤ b.2) then best else some (i, n)) none

/-- Groups with colons between them, in hexadecimal without zeros in front. -/
def groupsText (groups : List Nat) : String :=
  ":".intercalate (groups.map fun n => String.ofList (Nat.toDigits 16 n))

/-- **The text of eight groups**, the longest run of zeros left out. -/
def ip6Text (groups : List Nat) : String :=
  match gap? groups with
  | some (start, n) =>
    groupsText (groups.take start) ++ "::" ++ groupsText (groups.drop (start + n))
  | none => groupsText groups

end Flowgraph.Url
