import Flowgraph.Json.Reader
import Flowgraph.Time.Rfc3339

/-!
# Literals of settings files

The values that are written without quotes or brackets: truth values, integers, binary numbers,
dates and times.  `Literal.read?` takes a whole word.

Integers have 64 bits with a sign, in decimal or, without a sign, in base 16, 8 or 2.  Digits may be
grouped by single underscores.  A number too large becomes an infinity only below zero.
-/

namespace Flowgraph.Toml.Literal

/-- The value of a digit in a base. -/
def digit? (base : Nat) (c : Char) : Option Nat := (Tree.hexDigit? c).filter (· < base)

/-- The number that groups of digits stand for, `n` being what stands before them.  An underscore
has a digit on either side. -/
def groups? (base n : Nat) : List Char → Option Nat
  | [] => some n
  | '_' :: c :: rest => (digit? base c).bind fun d => groups? base (n * base + d) rest
  | c :: rest => (digit? base c).bind fun d => groups? base (n * base + d) rest

/-- The number that digits stand for, the first of which is no underscore. -/
def digits? (base : Nat) : List Char → Option Nat
  | [] => none
  | c :: rest => (digit? base c).bind fun d => groups? base d rest

/-- A decimal number without zeros in front. -/
def whole? : List Char → Option Nat
  | '0' :: _ :: _ => none
  | cs => digits? 10 cs

/-- The sign of a word and what stands behind it. -/
def sign : List Char → Bool × List Char
  | '-' :: rest => (true, rest)
  | '+' :: rest => (false, rest)
  | cs => (false, cs)

/-- An integer in the range of 64 bits. -/
def ranged? (i : Int) : Option Tree :=
  if -Nat.pow 2 63 ≤ i && i < Nat.pow 2 63 then some (.num (.int i)) else none

/-- An integer. -/
def integer? : List Char → Option Tree
  | '0' :: 'x' :: rest => (digits? 16 rest).bind fun n => ranged? n
  | '0' :: 'o' :: rest => (digits? 8 rest).bind fun n => ranged? n
  | '0' :: 'b' :: rest => (digits? 2 rest).bind fun n => ranged? n
  | cs =>
    let (negative, cs) := sign cs
    (whole? cs).bind fun n => ranged? (if negative then -n else n)

/-- The binary number nearest to a decimal. -/
def nearest? (negative : Bool) (digits : Nat) (exponent : Int) : Option Tree :=
  match Binary.ofDecimal? negative digits exponent with
  | some x => some (.num (.real x))
  | none => if negative then some (.special (.infinite true)) else none

/-- The letter that a power of ten stands behind. -/
def isE (c : Char) : Bool := c = 'e' || c = 'E'

/-- The power of ten behind the letter `e`; absent text stands for none. -/
def exponent? : List Char → Option Int
  | [] => some 0
  | _ :: rest =>
    let (negative, cs) := sign rest
    (digits? 10 cs).map fun n => if negative then -n else n

/-- A binary number: it has a fraction, a power of ten, or both. -/
def real? (cs : List Char) : Option Tree := do
  let (negative, cs) := sign cs
  let power := cs.dropWhile fun c => !isE c
  let exponent ← exponent? power
  let decimal := cs.takeWhile fun c => !isE c
  let n ← whole? (decimal.takeWhile (· != '.'))
  match decimal.dropWhile (· != '.') with
  | [] => if power.isEmpty then none else nearest? negative n exponent
  | _ :: fraction => do
    let f ← digits? 10 fraction
    let places := (fraction.filter Char.isDigit).length
    nearest? negative (n * Nat.pow 10 places + f) (exponent - places)

/-- A value that stands outside the numbers. -/
def special? (cs : List Char) : Option Tree :=
  match sign cs with
  | (negative, ['i', 'n', 'f']) => some (.special (.infinite negative))
  | (_, ['n', 'a', 'n']) => some (.special .nan)
  | _ => none

/-! ### Dates and times -/

/-- The time of day at the start of a text, and what stands behind it. -/
def clock? (cs : List Char) : Option (List Char) := do
  let (hour, cs) ← Instant.number? 2 2 cs
  let cs ← Instant.behind? ':' cs
  let (minute, cs) ← Instant.number? 2 2 cs
  let cs ← Instant.behind? ':' cs
  let (second, cs) ← Instant.number? 2 2 cs
  let (_, cs) ← Instant.fraction? cs
  if hour < 24 && minute < 60 && second ≤ 60 then some cs else none

/-- The date at the start of a text, and what stands behind it. -/
def date? (cs : List Char) : Option (List Char) := do
  let (year, cs) ← Instant.number? 4 4 cs
  let cs ← Instant.behind? '-' cs
  let (month, cs) ← Instant.number? 2 2 cs
  let cs ← Instant.behind? '-' cs
  let (day, cs) ← Instant.number? 2 2 cs
  if Date.isValid ⟨year, month, day⟩ then some cs else none

/-- An offset of at most a day, or nothing. -/
def isOffset : List Char → Bool
  | [] => true
  | [c] => c = 'Z' || c = 'z'
  | c :: rest =>
    (c = '+' || c = '-') &&
      ((do
        let (hour, cs) ← Instant.number? 2 2 rest
        let cs ← Instant.behind? ':' cs
        let (minute, cs) ← Instant.number? 2 2 cs
        guard (cs.isEmpty && hour < 24 && minute < 60)).isSome)

/-- A date, a time of day, or both with or without an offset. -/
def isMoment (cs : List Char) : Bool :=
  match date? cs with
  | some [] => true
  | some (c :: rest) => (c = 'T' || c = 't' || c = ' ') && (clock? rest).any isOffset
  | none => (clock? cs).any List.isEmpty

/-- The data that stands for a date or time: it is neither a text nor a number. -/
def moment (cs : List Char) : Tree := .obj [("date-time", .str (String.ofList cs))] .strict

/-- **The value of a word**, if it has one. -/
def read? (cs : List Char) : Option Tree :=
  if cs = ['t', 'r', 'u', 'e'] then some (.bool true)
  else if cs = ['f', 'a', 'l', 's', 'e'] then some (.bool false)
  else if isMoment cs then some (moment cs)
  else (integer? cs).or ((special? cs).or (real? cs))

end Flowgraph.Toml.Literal
