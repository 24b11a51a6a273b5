import Flowgraph.Operation.Basic
import Flowgraph.Store.Basic
import Flowgraph.Text.Quoted

/-!
# What operations work on

A world is a store, a clock, the ids that have been given out and the events that nobody has read
yet.  `World.answer` gives each request its answer at one moment.  Time, in milliseconds, passes
only where operations wait; the clock ticks on its own, a little with every reading.
-/

namespace Flowgraph

/-- **What operations work on.** -/
structure World where
  store : Store
  /-- The milliseconds that have passed. -/
  time : Nat
  /-- The next reading of the clock. -/
  clock : Instant
  /-- How many ids have been given out. -/
  made : Nat
  /-- The events that have been published and not read, the newest first. -/
  unread : List Event

namespace World

/-- A world that begins with a store, at some instant. -/
def start (store : Store) (clock : Instant) : World := ⟨store, 0, clock, 0, []⟩

/-! ### Ids -/

/-- A number in hexadecimal digits, the last ones, to the given width. -/
def hexDigits (width n : Nat) : String :=
  let digits := Text.hex (n % Nat.pow 16 width)
  String.ofList (List.replicate (width - digits.length) '0') ++ digits

/-- The id of a flow: the millisecond of its creation and a number. -/
def flowId (t : Instant) (n : Nat) : String :=
  "flow_" ++ toString (t.seconds * 1000 + (t.nanos / 1000000 : Nat)) ++ "_" ++ hexDigits 8 n

/-- The id of a run. -/
def runId (n : Nat) : String :=
  hexDigits 8 (n >>> 90) ++ "-" ++ hexDigits 4 (n >>> 74) ++ "-4" ++ hexDigits 3 (n >>> 62)
    ++ "-8" ++ hexDigits 3 (n >>> 48) ++ "-" ++ hexDigits 12 n

/-! ### Answers -/

/-- The world with another store, and an answer beside it. -/
def withStore {α : Type} (w : World) (answer : α × Store) : α × World :=
  (answer.1, { w with store := answer.2 })

/-- A reading of the clock, which goes on by a thousand nanoseconds. -/
def tick (w : World) : Instant × World := (w.clock, { w with clock := w.clock.addNanos 1000 })

/-- The next number for an id. -/
def number (w : World) : Nat × World := (w.made, { w with made := w.made + 1 })

/-- **The answer to a request**, and the world afterwards.  A wait is answered at once; whoever lets
time pass does so before. -/
def answer (cancelled : Bool) (w : World) : (q : Request) → q.Answer × World
  | .insert f => w.withStore (w.store.insert f)
  | .get id => (w.store.get id, w)
  | .list => (w.store.list, w)
  | .update f => w.withStore (w.store.update f)
  | .setLife id status lastRun => w.withStore (w.store.setLife id status lastRun)
  | .delete id => w.withStore (w.store.delete id)
  | .append r => w.withStore (w.store.append r)
  | .records flow => (w.store.recordsOf flow, w)
  | .publish e => ((), { w with unread := e :: w.unread })
  | .clock => w.tick
  | .freshFlowId =>
    let (t, w) := w.tick
    let (n, w) := w.number
    (flowId t n, w)
  | .freshRunId =>
    let (n, w) := w.number
    (runId n, w)
  | .isCancelled => (cancelled, w)
  | .wait _ => (if cancelled then .cancelled else .elapsed, w)

/-! ### Events -/

/-- **Reads the events** that nobody has read yet, in order. -/
def readEvents (w : World) : List Event × World := (w.unread.reverse, { w with unread := [] })

/-! ### An operation alone -/

/-- An operation that is cancelled at some time has been cancelled by now. -/
def isCancelledBy (w : World) : Option Nat → Bool
  | some t => decide (t ≤ w.time)
  | none => false

/-- The earlier of a time and a limit, if there is one. -/
def earlier (t : Nat) : Option Nat → Nat
  | some limit => min t limit
  | none => t

/-- How a wait ends that lasts until `wake`: cancelled if it was to last longer. -/
def waited (wake due : Nat) : Waited := if wake < due then .cancelled else .elapsed

/-- **Runs an operation with nothing else going on.**  It is cancelled at the time `cancelAt`, if
one is given. -/
def runAlone {α : Type} (cancelAt : Option Nat) : Operation α → World → α × World
  | .done a, w => (a, w)
  | .ask (.wait n) next, w =>
    if w.isCancelledBy cancelAt then runAlone cancelAt (next .cancelled) w
    else
      -- the wait ends with the cancellation if that comes first
      let wake := earlier (w.time + n) cancelAt
      runAlone cancelAt (next (waited wake (w.time + n))) { w with time := wake }
  | .ask q next, w =>
    let (a, w') := w.answer (w.isCancelledBy cancelAt) q
    runAlone cancelAt (next a) w'

/-- Runs an operation that is not cancelled, with nothing else going on. -/
def run {α : Type} (o : Operation α) (w : World) : α × World := runAlone none o w

end World

end Flowgraph
