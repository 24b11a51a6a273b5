import Flowgraph.Time.Civil

/-!
# Instants

An instant is a second of universal time and the nanoseconds that have passed in it.  A second
that has a leap second behind it lasts for two thousand million nanoseconds.
-/

namespace Flowgraph

/-- **An instant of universal time.**  `seconds` counts from the beginning of 1970; `nanos` reaches
a thousand million only within a leap second. -/
structure Instant where
  seconds : Int
  nanos : Nat
  deriving DecidableEq, Repr, Inhabited

namespace Instant

/-- Nanoseconds in a second. -/
def second : Nat := 1000000000

/-- Seconds in a day. -/
def day : Nat := 86400

/-- The date of an instant. -/
def date (t : Instant) : Date := Date.ofDays (t.seconds / day)

/-- The seconds that have passed since the beginning of the day. -/
def secondOfDay (t : Instant) : Nat := (t.seconds % day).toNat

/-- The earlier instant comes first. -/
def le (s t : Instant) : Prop :=
  s.seconds < t.seconds ∨ (s.seconds = t.seconds ∧ s.nanos ≤ t.nanos)

instance : LE Instant := ⟨le⟩

instance (s t : Instant) : Decidable (s ≤ t) :=
  inferInstanceAs (Decidable
    (s.seconds < t.seconds ∨ (s.seconds = t.seconds ∧ s.nanos ≤ t.nanos)))

instance : LT Instant := ⟨fun s t => s ≤ t ∧ s ≠ t⟩

instance (s t : Instant) : Decidable (s < t) := inferInstanceAs (Decidable (s ≤ t ∧ s ≠ t))

/-- The instant some nanoseconds later. -/
def addNanos (t : Instant) (n : Nat) : Instant :=
  let total := t.nanos + n
  ⟨t.seconds + (total / second : Nat), total % second⟩

/-- A leap second between the two times of day is counted. -/
def leapCorrection (s t : Instant) : Int :=
  if t.secondOfDay < s.secondOfDay then (if second ≤ t.nanos then 1 else 0)
  else if s.secondOfDay < t.secondOfDay then (if second ≤ s.nanos then -1 else 0)
  else 0

/-- The nanoseconds from `t` to `s`. -/
def nanosSince (s t : Instant) : Int :=
  (s.seconds - t.seconds + leapCorrection s t) * second + (s.nanos - t.nanos)

/-- **The whole milliseconds from `t` to `s`**, the rest being dropped towards zero. -/
def millisSince (s t : Instant) : Int := (s.nanosSince t).tdiv 1000000

end Instant

end Flowgraph
