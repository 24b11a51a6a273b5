import Flowgraph.Time.Instant

/-!
# Calendar expressions

A calendar expression says at which seconds something happens: it has a field for the second, the
minute, the hour, the day of the month, the month and the day of the week, and may have one for the
year.  `Calendar.read?` reads an expression, and `Calendar.next?` is the first of its seconds after
an instant.
-/

namespace Flowgraph

/-- **A calendar**: the values that each part of a date and time may take, in increasing order. -/
structure Calendar where
  seconds : List Nat
  minutes : List Nat
  hours : List Nat
  days : List Nat
  months : List Nat
  /-- The days of the week, from Sunday as one to Saturday as seven. -/
  weekdays : List Nat
  years : List Nat
  deriving DecidableEq, Repr

namespace Calendar

/-! ### Parts -/

/-- **A part of a date and time**: the range of its values, the names that some of them go by, and
whether its field may be left open by a question mark. -/
structure Part where
  least : Nat
  most : Nat
  /-- The names of the values from the least one on. -/
  names : List (List String)
  mayBeOpen : Bool

namespace Part

/-- A part whose values have no names. -/
def numbered (least most : Nat) : Part := ⟨least, most, [], false⟩

/-- The seconds of a minute. -/
def second : Part := numbered 0 59

/-- The minutes of an hour. -/
def minute : Part := numbered 0 59

/-- The hours of a day. -/
def hour : Part := numbered 0 23

/-- The days of a month. -/
def day : Part := ⟨1, 31, [], true⟩

/-- The months of a year. -/
def month : Part :=
  ⟨1, 12, [["jan", "january"], ["feb", "february"], ["mar", "march"], ["apr", "april"], ["may"],
    ["jun", "june"], ["jul", "july"], ["aug", "august"], ["sep", "september"],
    ["oct", "october"], ["nov", "november"], ["dec", "december"]], false⟩

/-- The days of a week. -/
def weekday : Part :=
  ⟨1, 7, [["sun", "sunday"], ["mon", "monday"], ["tue", "tues", "tuesday"],
    ["wed", "wednesday"], ["thu", "thurs", "thursday"], ["fri", "friday"],
    ["sat", "saturday"]], true⟩

/-- The years. -/
def year : Part := numbered 1970 2100

/-- The values from one on to another. -/
def span (a b : Nat) : List Nat := List.range' a (b + 1 - a)

/-- All values of a part. -/
def all (p : Part) : List Nat := span p.least p.most

/-- The part has this value. -/
def has (p : Part) (n : Nat) : Bool := p.least ≤ n && n ≤ p.most

/-- The value of a name, in letters of either case. -/
def named? (p : Part) (name : List Char) : Option Nat :=
  (p.names.findIdx? fun names => names.contains (String.ofList (name.map Char.toLower))).map
    (p.least + ·)

/-- The values from one on to another, in this order. -/
def range? (p : Part) (a b : Nat) : Option (List Nat) :=
  if p.has a && p.has b && a ≤ b then some (span a b) else none

end Part

/-! ### Fields -/

/-- **What a field lists**, before any step. -/
inductive Extent where
  | all
  | one (n : Nat)
  | range (a b : Nat)
  | names (a b : List Char)
  deriving DecidableEq, Repr

/-- **An item of a field.** -/
inductive Item where
  | every (e : Extent)
  /-- Every so many of the values, the first one included; a single value stands for all from it
  on. -/
  | stepped (e : Extent) (step : Nat)
  | name (a : List Char)
  deriving DecidableEq, Repr

/-- The values of an extent, unless it goes beyond the part. -/
def Extent.values? (p : Part) : Extent → Option (List Nat)
  | .all => some p.all
  | .one n => if p.has n then some [n] else none
  | .range a b => p.range? a b
  | .names a b => do p.range? (← p.named? a) (← p.named? b)

/-- Every so many of some values, `wait` being how many are passed over first. -/
def everyNth (step : Nat) : (wait : Nat) → List Nat → List Nat
  | _, [] => []
  | 0, n :: rest => n :: everyNth step (step - 1) rest
  | wait + 1, _ :: rest => everyNth step wait rest

/-- The values of an item, unless it or its step goes beyond the part. -/
def Item.values? (p : Part) : Item → Option (List Nat)
  | .every e => e.values? p
  | .stepped e step =>
    if step = 0 || p.most < step then none
    else
      (match e with
        | .one n => if p.has n then some (Part.span n p.most) else none
        | e => e.values? p).map (everyNth step 0)
  | .name a => (p.named? a).map ([·])

/-! ### Reading -/

/-- A blank: a space, a tab or the end of a line. -/
def isBlank (c : Char) : Bool := c = ' ' || c = '\t' || c = '\n' || c = '\r'

/-- The text without the blanks at its start. -/
def skipBlanks (cs : List Char) : List Char := cs.dropWhile isBlank

/-- What a run of characters makes, with the blanks around it. -/
def run? {α : Type} (p : Char → Bool) (f : List Char → Option α) (cs : List Char) :
    Option (α × List Char) :=
  let cs := skipBlanks cs
  let run := cs.takeWhile p
  if run.isEmpty then none else (f run).map fun a => (a, skipBlanks (cs.drop run.length))

/-- A number of 32 bits. -/
def number? (cs : List Char) : Option (Nat × List Char) :=
  run? Char.isDigit (fun ds =>
    let n := ds.foldl (fun n c => n * 10 + (c.toNat - '0'.toNat)) 0
    if n < Nat.pow 2 32 then some n else none) cs

/-- A name. -/
def word? (cs : List Char) : Option (List Char × List Char) := run? Char.isAlpha some cs

/-- An extent. -/
def extent? (p : Part) (cs : List Char) : Option (Extent × List Char) :=
  match cs with
  | '*' :: rest => some (.all, rest)
  | '?' :: rest => if p.mayBeOpen then some (.all, rest) else none
  | cs =>
    match number? cs with
    | some (a, '-' :: rest) =>
      match number? rest with
      | some (b, rest) => some (.range a b, rest)
      | none => some (.one a, '-' :: rest)
    | some (a, rest) => some (.one a, rest)
    | none =>
      match word? cs with
      | some (a, '-' :: rest) => (word? rest).map fun (b, rest) => (.names a b, rest)
      | _ => none

/-- An item of a field. -/
def item? (p : Part) (cs : List Char) : Option (Item × List Char) :=
  match extent? p cs with
  | some (e, '/' :: rest) =>
    match number? rest with
    | some (step, rest) => some (.stepped e step, rest)
    | none => some (.every e, '/' :: rest)
  | some (e, rest) => some (.every e, rest)
  | none => (word? cs).map fun (a, rest) => (.name a, rest)

/-- The values of the items at the start of a text, a comma between any two.  Each item consumes a
character, so `fuel` beyond the length of the text is never used up. -/
def items? (fuel : Nat) (p : Part) (cs : List Char) : Option (List Nat × List Char) :=
  match fuel with
  | 0 => none
  | fuel + 1 => do
    let (item, rest) ← item? p cs
    let values ← item.values? p
    match rest with
    | ',' :: rest => do
      let (more, rest) ← items? fuel p rest
      return (values ++ more, rest)
    | rest => return (values, rest)

/-- **A field**: the values of a part that it lists, and the text behind it. -/
def field? (p : Part) (cs : List Char) : Option (List Nat × List Char) :=
  (items? (cs.length + 1) p (skipBlanks cs)).map fun (values, rest) =>
    (p.all.filter (values.contains ·), skipBlanks rest)

/-- An expression of six or seven fields. -/
def readFields? (cs : List Char) : Option Calendar := do
  let (seconds, cs) ← field? .second cs
  let (minutes, cs) ← field? .minute cs
  let (hours, cs) ← field? .hour cs
  let (days, cs) ← field? .day cs
  let (months, cs) ← field? .month cs
  let (weekdays, cs) ← field? .weekday cs
  if cs.isEmpty then
    return ⟨seconds, minutes, hours, days, months, weekdays, Part.year.all⟩
  else do
    let (years, cs) ← field? .year cs
    if cs.isEmpty then some ⟨seconds, minutes, hours, days, months, weekdays, years⟩ else none

/-- The first second of every hour. -/
def hourly : Calendar :=
  ⟨[0], [0], Part.hour.all, Part.day.all, Part.month.all, Part.weekday.all, Part.year.all⟩

/-- The first second of every day. -/
def daily : Calendar := { hourly with hours := [0] }

/-- The first second of every Sunday. -/
def weekly : Calendar := { daily with weekdays := [1] }

/-- The first second of every month. -/
def monthly : Calendar := { daily with days := [1] }

/-- The first second of every year. -/
def yearly : Calendar := { monthly with months := [1] }

/-- The expressions of one word. -/
def shorthands : List (String × Calendar) :=
  [("@yearly", yearly), ("@monthly", monthly), ("@weekly", weekly), ("@daily", daily),
    ("@hourly", hourly)]

/-- **Reads an expression**, the whole text up to blanks around it. -/
def read? (s : String) : Option Calendar :=
  let cs := skipBlanks s.toList
  let word := String.ofList (cs.takeWhile fun c => !isBlank c)
  match shorthands.find? (·.1 == word) with
  | some (_, c) => if (skipBlanks (cs.drop word.length)).isEmpty then some c else none
  | none => readFields? cs

/-! ### The next tick -/

/-- The date is one of the calendar's. -/
def hasDate (c : Calendar) (d : Date) : Bool :=
  c.years.contains d.year.toNat && c.months.contains d.month && c.days.contains d.day
    && c.weekdays.contains d.weekday

/-- The first of the calendar's times of day, in seconds, that is not before a given one. -/
def timeFrom? (c : Calendar) (least : Nat) : Option Nat :=
  (c.hours.filter fun h => least < (h + 1) * 3600).findSome? fun h =>
    (c.minutes.filter fun m => least < h * 3600 + (m + 1) * 60).findSome? fun m =>
      (c.seconds.find? fun s => least ≤ h * 3600 + m * 60 + s).map (h * 3600 + m * 60 + ·)

/-- The first tick on a day, from a time of the day on, or on one of the `n` days behind it. -/
def nextFrom? (c : Calendar) (day : Int) (least : Nat) : (n : Nat) → Option Instant
  | 0 => tick? day least
  | n + 1 => (tick? day least).or (nextFrom? c (day + 1) 0 n)
where
  /-- The first tick on a day, from a time of the day on. -/
  tick? (day : Int) (least : Nat) : Option Instant :=
    if c.hasDate (.ofDays day) then
      (c.timeFrom? least).map fun s => ⟨day * Instant.day + s, 0⟩
    else none

/-- The last day that any calendar has. -/
def lastDay : Int := Date.toDays ⟨2100, 12, 31⟩

/-- **The first tick after an instant**, if there is one. -/
def next? (c : Calendar) (after : Instant) : Option Instant :=
  let start := after.seconds + 1
  let day := start / Instant.day
  if day ≤ lastDay then
    c.nextFrom? day (start % Instant.day).toNat (lastDay - day).toNat
  else none

end Calendar

end Flowgraph
