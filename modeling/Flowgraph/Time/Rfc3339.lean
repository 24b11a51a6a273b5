import Flowgraph.Time.Instant
import Flowgraph.Text.Blank

/-!
# Instants as text

The text form of RFC 3339, written in universal time with 0, 3, 6 or 9 digits of a second, as few
as are exact.  Years outside 0000 to 9999 are written with a sign.

There are two readers.  `Instant.read?` takes exactly the form of the standard, and so no signed
year; `Instant.readLoosely?` also takes signed years, shorter fields, blanks between the fields and
`UTC` for the offset.
-/

namespace Flowgraph

namespace Instant

/-! ### Writing -/

/-- A number with zeros in front, to the given width. -/
def padded (width n : Nat) : String :=
  let s := toString n
  String.ofList (List.replicate (width - s.length) '0') ++ s

/-- A year in four digits, or with a sign if it needs one. -/
def yearText (year : Int) : String :=
  if 0 ≤ year && year ≤ 9999 then padded 4 year.toNat
  else (if year < 0 then "-" else "+") ++ padded 4 year.natAbs

/-- The fraction of a second, in as few of 0, 3, 6 or 9 digits as are exact. -/
def fractionText (nanos : Nat) : String :=
  if nanos = 0 then ""
  else if nanos % 1000000 = 0 then "." ++ padded 3 (nanos / 1000000)
  else if nanos % 1000 = 0 then "." ++ padded 6 (nanos / 1000)
  else "." ++ padded 9 nanos

/-- The date of an instant, as text. -/
def dateText (t : Instant) : String :=
  let d := t.date
  yearText d.year ++ "-" ++ padded 2 d.month ++ "-" ++ padded 2 d.day

/-- The time of day of an instant to the second, as text. -/
def timeText (t : Instant) : String :=
  let s := t.secondOfDay
  padded 2 (s / 3600) ++ ":" ++ padded 2 (s / 60 % 60) ++ ":"
    ++ padded 2 (s % 60 + t.nanos / second)

/-- The text of an instant, with the given text for the offset. -/
def textWith (zone : String) (t : Instant) : String :=
  t.dateText ++ "T" ++ t.timeText ++ fractionText (t.nanos % second) ++ zone

/-- **The text of an instant in data**, with `Z` for the offset. -/
def text (t : Instant) : String := t.textWith "Z"

/-- **The text of an instant in the rows of a database**, with the offset in digits. -/
def rowText (t : Instant) : String := t.textWith "+00:00"

/-- The text of an instant for people, to the second. -/
def displayText (t : Instant) : String := t.dateText ++ " " ++ t.timeText

/-! ### Reading -/

/-- The fields of an instant as they were written. -/
structure Fields where
  date : Date
  hour : Nat
  minute : Nat
  second : Nat
  nanos : Nat
  /-- Seconds ahead of universal time. -/
  offset : Int

/-- The years that an instant may lie in, after and before its offset is applied. -/
def yearInRange (year : Int) : Bool := -262143 ≤ year && year ≤ 262142

/-- **The instant that the fields name**, if there is one.  The second 60 is the leap second behind
second 59 of any minute. -/
def ofFields? (f : Fields) : Option Instant :=
  if f.date.isValid && yearInRange f.date.year && f.hour < 24 && f.minute < 60 && f.second ≤ 60
      && f.offset.natAbs < day then
    let clock := f.hour * 3600 + f.minute * 60 + min f.second 59
    let t : Instant :=
      ⟨f.date.toDays * day + clock - f.offset,
        if f.second = 60 then Instant.second + f.nanos else f.nanos⟩
    if yearInRange t.date.year then some t else none
  else none

/-- A number of at least `least` and at most `most` digits. -/
def number? (least most : Nat) (cs : List Char) : Option (Nat × List Char) :=
  let digits := (cs.take most).takeWhile Char.isDigit
  if digits.length < least then none
  else some (digits.foldl (fun n c => n * 10 + (c.toNat - '0'.toNat)) 0, cs.drop digits.length)

/-- The text behind a given character. -/
def behind? (c : Char) : List Char → Option (List Char)
  | d :: rest => if c = d then some rest else none
  | [] => none

/-- The nanoseconds of a fraction, if there is one; digits beyond the ninth are dropped. -/
def fraction? : List Char → Option (Nat × List Char)
  | '.' :: rest => do
    let (n, after) ← number? 1 9 rest
    let used := rest.length - after.length
    return (n * Nat.pow 10 (9 - used), after.dropWhile Char.isDigit)
  | cs => some (0, cs)

/-- The offset from universal time in seconds, with `separator` reading what stands between its
hours and minutes. -/
def offset? (separator : List Char → Option (List Char)) : List Char → Option (Int × List Char)
  | [] => none
  | c :: rest =>
    if c = 'Z' || c = 'z' then some (0, rest)
    else if c = '+' || c = '-' || c = '−' then do
      let (hours, rest) ← number? 2 2 rest
      let rest ← separator rest
      let (minutes, rest) ← number? 2 2 rest
      if 60 ≤ minutes then none
      else
        let n : Int := hours * 3600 + minutes * 60
        return (if c = '+' then n else -n, rest)
    else none

/-- The separator between date and time. -/
def betweenDateAndTime? : List Char → Option (List Char)
  | c :: rest => if c = 'T' || c = 't' || c = ' ' then some rest else none
  | [] => none

/-- **Reads the form of the standard**, the whole text and nothing else. -/
def read? (s : String) : Option Instant := do
  let (year, cs) ← number? 4 4 s.toList
  let cs ← behind? '-' cs
  let (month, cs) ← number? 2 2 cs
  let cs ← behind? '-' cs
  let (dayOfMonth, cs) ← number? 2 2 cs
  let cs ← betweenDateAndTime? cs
  let (hour, cs) ← number? 2 2 cs
  let cs ← behind? ':' cs
  let (minute, cs) ← number? 2 2 cs
  let cs ← behind? ':' cs
  let (sec, cs) ← number? 2 2 cs
  let (nanos, cs) ← fraction? cs
  let (offset, cs) ← offset? (behind? ':') cs
  if cs.isEmpty then ofFields? ⟨⟨year, month, dayOfMonth⟩, hour, minute, sec, nanos, offset⟩
  else none

/-- A field of at most two digits, with blanks before it. -/
def field? (cs : List Char) : Option (Nat × List Char) := number? 1 2 (Text.trimStart cs)

/-- A year of at most four digits, or of any length behind a sign, with blanks before it. -/
def year? (cs : List Char) : Option (Int × List Char) :=
  match Text.trimStart cs with
  | '-' :: rest => (number? 1 rest.length rest).map fun (n, rest) => (-(n : Int), rest)
  | '+' :: rest => (number? 1 rest.length rest).map fun (n, rest) => (n, rest)
  | cs => (number? 1 4 cs).map fun (n, rest) => (n, rest)

/-- The offset, or `UTC` in letters of either case. -/
def looseOffset? (cs : List Char) : Option (Int × List Char) :=
  if (cs.take 3).map Char.toLower = ['u', 't', 'c'] then some (0, cs.drop 3)
  else offset? (fun cs => some (cs.dropWhile fun c => c = ':' || Text.isSpace c)) cs

/-- **Reads the loose form**, the whole text up to blanks at its end. -/
def readLoosely? (s : String) : Option Instant := do
  let (year, cs) ← year? s.toList
  let cs ← behind? '-' (Text.trimStart cs)
  let (month, cs) ← field? cs
  let cs ← behind? '-' (Text.trimStart cs)
  let (dayOfMonth, cs) ← field? cs
  let cs ← betweenDateAndTime? cs
  let (hour, cs) ← field? cs
  let cs ← behind? ':' (Text.trimStart cs)
  let (minute, cs) ← field? cs
  let cs ← behind? ':' (Text.trimStart cs)
  let (sec, cs) ← field? cs
  let (nanos, cs) ← fraction? cs
  let (offset, cs) ← looseOffset? (Text.trimStart cs)
  if (Text.trimStart cs).isEmpty then
    ofFields? ⟨⟨year, month, dayOfMonth⟩, hour, minute, sec, nanos, offset⟩
  else none

end Instant

end Flowgraph
