/-!
# Percent escapes

In addresses a byte may be written as a percent sign and two hexadecimal digits.  What is not such
an escape stands for itself.
-/

namespace Flowgraph.Text

/-- The bytes of a text. -/
def bytes (s : String) : List UInt8 := s.toUTF8.toList

/-- The text of some bytes, if they are one. -/
def ofBytes? (bs : List UInt8) : Option String := String.fromUTF8? ⟨bs.toArray⟩

/-- The value of a hexadecimal digit, given as a byte. -/
def hexValue? (b : UInt8) : Option Nat :=
  if 48 ≤ b && b ≤ 57 then some (b.toNat - 48)
  else if 65 ≤ b && b ≤ 70 then some (b.toNat - 55)
  else if 97 ≤ b && b ≤ 102 then some (b.toNat - 87)
  else none

/-- The byte that two digits stand for. -/
def escapedByte? (high low : UInt8) : Option UInt8 := do
  let h ← hexValue? high
  let l ← hexValue? low
  return (h * 16 + l).toUInt8

/-- **Puts bytes in place of their escapes.** -/
def unescape : List UInt8 → List UInt8
  | 37 :: high :: low :: rest =>
    match escapedByte? high low with
    | some b => b :: unescape rest
    | none => 37 :: unescape (high :: low :: rest)
  | b :: rest => b :: unescape rest
  | [] => []

/-- A text with its escapes undone, if the bytes are a text again. -/
def unescaped? (s : String) : Option String := ofBytes? (unescape (bytes s))

/-- The escape of a byte. -/
def percentByte (b : UInt8) : List Char :=
  let digit (n : Nat) : Char := if n < 10 then Char.ofNat (48 + n) else Char.ofNat (55 + n)
  ['%', digit (b.toNat / 16), digit (b.toNat % 16)]

/-- **A text with escapes** in place of the bytes of certain characters. -/
def percentEncode (isEscaped : Char → Bool) (cs : List Char) : List Char :=
  cs.flatMap fun c => if isEscaped c then (bytes c.toString).flatMap percentByte else [c]

end Flowgraph.Text
