import Flowgraph.Schedule.Basic
import Flowgraph.Schedule.Calendar
import Flowgraph.Session.Runs

/-!
# The scheduler

A scheduler keeps the schedules whose expressions make sense.  It waits for the earliest of their
next ticks and then fires every schedule that is due at it: each is announced, and a run of its flow
starts in the background.  When the scheduler shuts down, the runs that are still going on are
cancelled.
-/

namespace Flowgraph

/-- **A schedule that a scheduler keeps**, with the calendar that its expression stands for. -/
structure ScheduledFlow where
  schedule : Schedule
  calendar : Calendar
  deriving Repr

namespace ScheduledFlow

/-- The schedule with its calendar, if its expression makes sense. -/
def ofSchedule? (s : Schedule) : Option ScheduledFlow :=
  (Calendar.read? s.cron).map (⟨s, ·⟩)

/-- What a run of the flow starts with. -/
def context (f : ScheduledFlow) : Context := ⟨Json.ofOption f.schedule.payload, []⟩

/-- What is announced when the schedule fires. -/
def announcement (f : ScheduledFlow) : Event :=
  .scheduleFired f.schedule.name f.schedule.flowId

end ScheduledFlow

/-- **A scheduler**: the schedules that it keeps, in the order of the configuration. -/
structure Scheduler where
  kept : List ScheduledFlow
  deriving Repr

namespace Scheduler

/-- The scheduler of some schedules.  Those whose expression makes no sense are left out. -/
def ofSchedules (ss : List Schedule) : Scheduler := ⟨ss.filterMap ScheduledFlow.ofSchedule?⟩

/-- The number of schedules kept. -/
def size (s : Scheduler) : Nat := s.kept.length

/-! ### The next firing -/

/-- The earlier of two instants, either of which may be absent. -/
def earlier : Option Instant → Option Instant → Option Instant
  | none, t => t
  | s, none => s
  | some s, some t => some (if s ≤ t then s else t)

/-- The earliest of the next ticks. -/
def earliest? (next : ScheduledFlow → Option Instant) (fs : List ScheduledFlow) :
    Option Instant :=
  fs.foldr (fun f t => earlier (next f) t) none

/-- **What fires next**: the earliest tick and every schedule that is due at it.  `next` gives the
next tick of each. -/
def firing? (next : ScheduledFlow → Option Instant) (fs : List ScheduledFlow) :
    Option (Instant × List ScheduledFlow) :=
  (earliest? next fs).map fun t => (t, fs.filter fun f => next f = some t)

/-- What fires next after an instant. -/
def nextFiring? (s : Scheduler) (now : Instant) : Option (Instant × List ScheduledFlow) :=
  firing? (fun f => f.calendar.next? now) s.kept

/-! ### Firing -/

/-- Announces a schedule and starts the run of its flow. -/
def fire (x : Executor) (s : Runs) (f : ScheduledFlow) : Runs :=
  let ((), w) := s.world.answer false (.publish f.announcement)
  Runs.execute x f.schedule.flowId f.context none { s with world := w }

/-- **The next tick of a scheduler**: time passes until the next firing, and what is due fires, in
order.  If the scheduler is cancelled before, or nothing fires any more, nothing is done but to wait
for that. -/
def tick (sch : Scheduler) (x : Executor) (cancelAt : Option Nat) (s : Runs) :
    List ScheduledFlow × Runs :=
  let (now, w) := s.world.tick
  let s : Runs := { s with world := w }
  match sch.nextFiring? now with
  | none => ([], (cancelAt.map fun t => s.passTo t).getD s)
  | some (at_, due) =>
    let wake := s.world.time + (at_.nanosSince now / 1000000).toNat
    if World.earlier wake cancelAt < wake then ([], s.passTo (World.earlier wake cancelAt))
    else (due, due.foldl (fire x) (s.passTo wake))

/-! ### Shutting down -/

/-- The places of `n` runs once some of them have ended, in the given order: the last takes the
place of one that ends. -/
def placesAfter (n : Nat) (ended : List Nat) : List Nat :=
  ended.foldl
    (fun places i =>
      match places.idxOf? i, places.getLast? with
      | some k, some last => (places.set k last).dropLast
      | _, _ => places)
    (List.range n)

/-- The runs that have ended, in the order of their ends. -/
def endedRuns (s : Runs) : List Nat :=
  let ended := (s.jobs.zipIdx.filterMap fun (j, i) =>
    match j.phase with
    | .ended _ => some (j.turn, i)
    | _ => none)
  (ended.mergeSort fun a b => decide (a.1 ≤ b.1)).map (·.2)

/-- **Shuts down**: the runs that are still going on are cancelled, the one in the last place first,
and go on until they end. -/
def shutDown (s : Runs) : Runs :=
  ((placesAfter s.jobs.length (endedRuns s)).reverse.foldl Session.cancel s).drain

end Scheduler

end Flowgraph
