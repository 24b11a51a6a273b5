import Flowgraph.Number.Binary

/-!
# Spans of time

A span is a natural number of nanoseconds.  `Span.ofSeconds?` makes one of a number of seconds, and
`Span.ticks` counts the milliseconds that a timer of that span takes.
-/

namespace Flowgraph

/-- **A span of time**, in nanoseconds. -/
structure Span where
  nanos : Nat
  deriving DecidableEq, Repr

namespace Span

/-- Whole seconds. -/
def seconds (n : Nat) : Span := ⟨n * 1000000000⟩

/-- Whole milliseconds. -/
def millis (n : Nat) : Span := ⟨n * 1000000⟩

/-- The span is empty. -/
def isZero (s : Span) : Bool := s.nanos == 0

/-- Seconds from here on do not fit a span. -/
def bound : Nat := Nat.pow 2 64

/-- **The span of so many seconds**, to the nearest nanosecond, a tie going to the even one.  There
is none for seconds of 64 bits or more, nor for what is not a number.  Seconds are not negative
here. -/
def ofSeconds? : Extended .double → Option Span
  | .finite x =>
    if x.units < bound * Nat.pow 2 Format.double.scale then
      some ⟨Format.nearestEven (x.units * 1000000000) (Nat.pow 2 Format.double.scale)⟩
    else none
  | .infinite _ | .nan => none

/-- Seconds too far ahead for a timer. -/
def timerBound : Nat := Nat.pow 2 63

/-- The milliseconds that stand in for a span too long for a timer: thirty years. -/
def farAhead : Nat := 30 * 365 * 86400 * 1000

/-- **The ticks of a timer** set to a span: its milliseconds, rounded up. -/
def ticks (s : Span) : Nat :=
  if timerBound ≤ s.nanos / 1000000000 then farAhead else (s.nanos + 999999) / 1000000

end Span

/-- A number of seconds to wait: what is below zero, or is no number, is zero. -/
def Extended.atLeastZero {f : Format} : Extended f → Extended f
  | .finite x => if x.negative then .finite Binary.zero else .finite x
  | .infinite true => .finite Binary.zero
  | .infinite false => .infinite false
  | .nan => .finite Binary.zero

end Flowgraph
