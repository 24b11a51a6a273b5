import Flowgraph.Json.Tree

/-!
# Reading JSON text

`Tree.read` turns text into a tree and the text behind it.  It never fails: where the text makes no
sense the tree says so and nothing is left behind.

Two rules go beyond the grammar.  A number is read in two roundings: its digits, as many as fit 64
bits, are rounded to a binary number, which is then scaled by a power of ten.  And arrays and
objects nest at most 127 deep.
-/

namespace Flowgraph

namespace Number

/-- One past the greatest integer that stays exact. -/
def wordLimit : Nat := Nat.pow 2 64

/-- The digits of a number read so far: their value as far as it fits 64 bits, and the power of ten
by which the digits that did not fit shift it. -/
structure Digits where
  value : Nat
  exponent : Int
  full : Bool
  deriving DecidableEq, Repr

/-- One more digit before the point.  Once a digit did not fit, all later ones are dropped. -/
def Digits.pushWhole (d : Digits) (digit : Nat) : Digits :=
  if !d.full && d.value * 10 + digit < wordLimit then { d with value := d.value * 10 + digit }
  else { d with exponent := d.exponent + 1, full := true }

/-- One more digit behind the point. -/
def Digits.pushFraction (d : Digits) (digit : Nat) : Digits :=
  if !d.full && d.value * 10 + digit < wordLimit then
    { d with value := d.value * 10 + digit, exponent := d.exponent - 1 }
  else { d with full := true }

/-- The largest power of ten that scales in one step. -/
def scaleStep : Nat := 308

/-- The binary number nearest to a power of ten. -/
def powerOfTen (n : Nat) : Double := Binary.ofInt (Nat.pow 10 n)

/-- A number scaled down by `10 ^ n`, at most `10 ^ 308` at a time, each step rounded. -/
def scaleDown (x : Double) (n : Nat) : Double :=
  if n ≤ scaleStep then x.div (powerOfTen n)
  else if x.isZero then x
  else scaleDown (x.div (powerOfTen scaleStep)) (n - scaleStep)
termination_by n
decreasing_by simp_all [scaleStep]; omega

/-- A number scaled by a power of ten, or nothing when it gets too large. -/
def scale? (x : Double) : Int → Option Double
  | .ofNat n => if x.isZero then some x else if n ≤ scaleStep then x.mul? (powerOfTen n) else none
  | .negSucc n => some (scaleDown x (n + 1))

/-- The number with these digits and this further power of ten. -/
def ofDigits? (negative : Bool) (value : Nat) (exponent : Int) : Option Number :=
  let x : Double := Binary.ofInt value
  (scale? x exponent).map fun y => .real { y with negative := negative }

/-- **The number of a whole literal**: an integer if it fits 64 bits and is not minus zero. -/
def ofWhole? (negative : Bool) (d : Digits) : Option Number :=
  if d.full then ofDigits? negative d.value d.exponent
  else if !negative then some (.int d.value)
  else if 0 < d.value && d.value ≤ Nat.pow 2 63 then some (.int (-d.value))
  else ofDigits? true d.value 0

end Number

namespace Tree

/-- The characters that may stand between the tokens of JSON text. -/
def isGap (c : Char) : Bool := c = ' ' || c = '\n' || c = '\t' || c = '\r'

/-- The text without the gap at its start. -/
def skipGap (cs : List Char) : List Char := cs.dropWhile isGap

/-- The value of a decimal digit. -/
def digit? (c : Char) : Option Nat := if c.isDigit then some (c.toNat - '0'.toNat) else none

/-- The value of a hexadecimal digit. -/
def hexDigit? (c : Char) : Option Nat :=
  if c.isDigit then some (c.toNat - '0'.toNat)
  else if 'a' ≤ c && c ≤ 'f' then some (c.toNat - 'a'.toNat + 10)
  else if 'A' ≤ c && c ≤ 'F' then some (c.toNat - 'A'.toNat + 10)
  else none

/-- The value of four hexadecimal digits and the text behind them. -/
def hexWord? : List Char → Option (Nat × List Char)
  | a :: b :: c :: d :: rest =>
    match hexDigit? a, hexDigit? b, hexDigit? c, hexDigit? d with
    | some a, some b, some c, some d => some (((a * 16 + b) * 16 + c) * 16 + d, rest)
    | _, _, _, _ => none
  | _ => none

/-! ### Strings -/

/-- The units of a string, as they stand in the text: a character, or the unit that an escape of
four digits names. -/
inductive Unit16 where
  | char (c : Char)
  | word (n : Nat)

/-- The text of a string's units.  A high surrogate needs a low one behind it, spelled the same
way; a surrogate that is not part of a pair stands for nothing. -/
def joinUnits : List Unit16 → Option (List Char)
  | [] => some []
  | .char c :: rest => (joinUnits rest).map (c :: ·)
  | .word n :: rest =>
    if 0xD800 ≤ n && n ≤ 0xDBFF then
      match rest with
      | .word m :: rest =>
        if 0xDC00 ≤ m && m ≤ 0xDFFF then
          (joinUnits rest).map (Char.ofNat (0x10000 + (n - 0xD800) * 0x400 + (m - 0xDC00)) :: ·)
        else none
      | _ => none
    else if 0xDC00 ≤ n && n ≤ 0xDFFF then none
    else (joinUnits rest).map (Char.ofNat n :: ·)

/-- The character that an escape of one letter stands for. -/
def plainEscape? : Char → Option Char
  | '"' => some '"'
  | '\\' => some '\\'
  | '/' => some '/'
  | 'b' => some '\x08'
  | 'f' => some '\x0c'
  | 'n' => some '\n'
  | 'r' => some '\r'
  | 't' => some '\t'
  | _ => none

/-- The units of a string, from behind its opening quote to its closing one, last unit first. -/
def stringUnits (done : List Unit16) : List Char → Option (List Unit16 × List Char)
  | [] => none
  | '"' :: rest => some (done, rest)
  | '\\' :: 'u' :: a :: b :: c :: d :: rest =>
    match hexWord? [a, b, c, d] with
    | some (n, _) => stringUnits (.word n :: done) rest
    | none => none
  | '\\' :: e :: rest =>
    match plainEscape? e with
    | some c => stringUnits (.char c :: done) rest
    | none => none
  | c :: rest => if c.toNat < 0x20 || c = '\\' then none else stringUnits (.char c :: done) rest

/-- A string from behind its opening quote: its text, absent when it stands for none, and the text
behind it. -/
def readString (cs : List Char) : Option (Option String × List Char) :=
  (stringUnits [] cs).map fun (units, rest) =>
    ((joinUnits units.reverse).map String.ofList, rest)

/-! ### Numbers -/

/-- The digits at the start of the text, each given to `push`. -/
def takeDigits (push : Number.Digits → Nat → Number.Digits) (d : Number.Digits) :
    List Char → Number.Digits × List Char
  | [] => (d, [])
  | c :: rest =>
    match digit? c with
    | some n => takeDigits push (push d n) rest
    | none => (d, c :: rest)

/-- The text starts with a digit. -/
def startsWithDigit : List Char → Bool
  | c :: _ => c.isDigit
  | [] => false

/-- The value of the decimal digits at the start of the text. -/
def takeNat (n : Nat) : List Char → Nat × List Char
  | [] => (n, [])
  | c :: rest =>
    match digit? c with
    | some d => takeNat (n * 10 + d) rest
    | none => (n, c :: rest)

/-- The power of ten behind the letter `e`, if it is in good form. -/
def readExponent (cs : List Char) : Option (Int × List Char) :=
  let (negative, cs) :=
    match cs with
    | '+' :: rest => (false, rest)
    | '-' :: rest => (true, rest)
    | cs => (false, cs)
  if startsWithDigit cs then
    let (n, rest) := takeNat 0 cs
    some (if negative then -(n : Int) else n, rest)
  else none

/-- What the digits mean once the literal has ended. -/
def finishNumber (n : Option Number) (rest : List Char) : Tree × List Char :=
  match n with
  | some n => (.num n, rest)
  | none => (.unreadable, rest)

/-- The literal behind its fraction, or behind its whole part if there is no fraction. -/
def readScale (negative : Bool) (d : Number.Digits) (whole : Bool) :
    List Char → Option (Tree × List Char)
  | [] => some (finish [])
  | c :: rest =>
    if c = 'e' || c = 'E' then
      (readExponent rest).map fun (e, rest) =>
        finishNumber (Number.ofDigits? negative d.value (d.exponent + e)) rest
    else some (finish (c :: rest))
where
  finish (rest : List Char) : Tree × List Char :=
    finishNumber (if whole then Number.ofWhole? negative d
      else Number.ofDigits? negative d.value d.exponent) rest

/-- **A number** from behind its sign: no leading zeros, and at least one digit on each side of a
point. -/
def readNumber (negative : Bool) (cs : List Char) : Option (Tree × List Char) :=
  if !startsWithDigit cs then none
  else
    let zeroFirst := cs.head? == some '0'
    let (d, rest) := takeDigits Number.Digits.pushWhole ⟨0, 0, false⟩ cs
    if zeroFirst && startsWithDigit (cs.drop 1) then none
    else
      match rest with
      | '.' :: rest =>
        if startsWithDigit rest then
          let (d, rest) := takeDigits Number.Digits.pushFraction { d with full := false } rest
          readScale negative d false rest
        else none
      | rest => readScale negative d true rest

/-! ### Values -/

/-- Arrays and objects nest less than this deep. -/
def depthLimit : Nat := 128

/-- A container at `depth`, which stands for no value beyond the limit. -/
def limited (depth : Nat) (t : Tree) : Tree :=
  if depth < depthLimit then t else if t.isWhole then .unreadable else .broken

/-- What a literal word stands for, if the text is that word. -/
def readWord (word : List Char) (t : Tree) (cs : List Char) : Tree × Option (List Char) :=
  if word.isPrefixOf cs then (t, some (cs.drop word.length)) else (.broken, none)

mutual

/-- The value at the start of the text, which stands inside `depth` containers, and the text behind
it unless it is broken.  Each step consumes a character, so `fuel` beyond twice the length of the
text is never used up. -/
def readValue (fuel depth : Nat) (cs : List Char) : Tree × Option (List Char) :=
  match fuel with
  | 0 => (.broken, none)
  | fuel + 1 =>
    match skipGap cs with
    | [] => (.broken, none)
    | 'n' :: rest => readWord ['u', 'l', 'l'] .null rest
    | 't' :: rest => readWord ['r', 'u', 'e'] (.bool true) rest
    | 'f' :: rest => readWord ['a', 'l', 's', 'e'] (.bool false) rest
    | '"' :: rest =>
      match readString rest with
      | some (some s, rest) => (.str s, some rest)
      | some (none, rest) => (.unreadable, some rest)
      | none => (.broken, none)
    | '[' :: rest =>
      let (items, closing, rest) := readItems fuel (depth + 1) true rest
      (limited (depth + 1) (.arr items closing), rest)
    | '\x7b' :: rest =>
      let (members, closing, rest) := readMembers fuel (depth + 1) true rest
      (limited (depth + 1) (.obj members closing), rest)
    | '-' :: rest =>
      match readNumber true rest with
      | some (t, rest) => (t, some rest)
      | none => (.broken, none)
    | c :: rest =>
      match readNumber false (c :: rest) with
      | some (t, rest) => (t, some rest)
      | none => (.broken, none)

/-- The items of an array from behind its bracket, or from behind an item. -/
def readItems (fuel depth : Nat) (first : Bool) (cs : List Char) :
    List Tree × Tree.Closing × Option (List Char) :=
  match fuel with
  | 0 => ([], .broken, none)
  | fuel + 1 =>
    match skipGap cs with
    | ']' :: rest => ([], .strict, some rest)
    | ',' :: rest =>
      if first then ([.broken], .broken, none)
      else if (skipGap rest).head? == some ']' then ([], .broken, none)
      else readItem fuel depth rest
    | rest => if first then readItem fuel depth rest else ([], .broken, none)

/-- One item of an array and those behind it. -/
def readItem (fuel depth : Nat) (cs : List Char) :
    List Tree × Tree.Closing × Option (List Char) :=
  match fuel with
  | 0 => ([], .broken, none)
  | fuel + 1 =>
    match readValue fuel depth cs with
    | (t, none) => ([t], .broken, none)
    | (t, some rest) =>
      let (items, closing, rest) := readItems fuel depth false rest
      (t :: items, closing, rest)

/-- The members of an object from behind its brace, or from behind a member. -/
def readMembers (fuel depth : Nat) (first : Bool) (cs : List Char) :
    List (String × Tree) × Tree.Closing × Option (List Char) :=
  match fuel with
  | 0 => ([], .broken, none)
  | fuel + 1 =>
    match skipGap cs with
    | '\x7d' :: rest => ([], .strict, some rest)
    | ',' :: rest => if first then ([], .broken, none) else readMember fuel depth (skipGap rest)
    | rest => if first then readMember fuel depth rest else ([], .broken, none)

/-- One member of an object and those behind it. -/
def readMember (fuel depth : Nat) (cs : List Char) :
    List (String × Tree) × Tree.Closing × Option (List Char) :=
  match fuel with
  | 0 => ([], .broken, none)
  | fuel + 1 =>
    match cs with
    | '"' :: rest =>
      match readString rest with
      | some (some key, rest) =>
        match skipGap rest with
        | ':' :: rest =>
          match readValue fuel depth rest with
          | (t, none) => ([(key, t)], .broken, none)
          | (t, some rest) =>
            let (members, closing, rest) := readMembers fuel depth false rest
            ((key, t) :: members, closing, rest)
        | _ => ([(key, .broken)], .broken, none)
      | _ => ([], .broken, none)
    | _ => ([], .broken, none)

end

/-- **The tree at the start of a text** and the text behind it, absent when the tree is broken. -/
def read (s : String) : Tree × Option (List Char) :=
  let cs := s.toList
  readValue (3 * cs.length + 3) 0 cs

end Tree

end Flowgraph
