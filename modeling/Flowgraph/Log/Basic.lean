import Flowgraph.Log.Entry

/-!
# The log of runs

A log reads the events of a mailbox, one at a turn, and writes a line for each that its level lets
in.  The events go on to come in meanwhile, and at some moment the log is asked to stop.  When it finds
its mailbox empty, it looks at its next turn whether it has been asked to: then it stops, and otherwise
it turns to its mailbox again.  Between the two looks anything may happen.  `RunLog.run` is what becomes
of a log in any sequence of such moments.
-/

namespace Flowgraph

/-! ### Mailboxes -/

/-- **The events that one reader has not read yet**, the oldest first.  Of too many the oldest are
lost. -/
structure Mailbox where
  capacity : Nat
  unread : List Event
  deriving DecidableEq, Repr

namespace Mailbox

/-- An empty mailbox for at least so many events: its capacity is the next power of two. -/
def withCapacity (n : Nat) : Mailbox := ⟨n.nextPowerOfTwo, []⟩

/-- The capacity when nothing else is said. -/
def standardCapacity : Nat := 256

/-- One more event comes in. -/
def put (m : Mailbox) (e : Event) : Mailbox :=
  let all := m.unread ++ [e]
  { m with unread := all.drop (all.length - m.capacity) }

/-- The oldest event is taken out. -/
def take? (m : Mailbox) : Option (Event × Mailbox) :=
  match m.unread with
  | [] => none
  | e :: rest => some (e, { m with unread := rest })

end Mailbox

/-! ### Logs -/

/-- **A log of runs.** -/
structure RunLog where
  level : Nat
  mailbox : Mailbox
  /-- It has been asked to stop. -/
  cancelled : Bool
  /-- It has found its mailbox empty, and looks next whether it has been asked to stop. -/
  foundEmpty : Bool
  /-- It has stopped. -/
  stopped : Bool
  /-- What has been written, in order. -/
  written : List LogEntry
  deriving DecidableEq, Repr

/-- **What can happen** while a log is kept. -/
inductive RunLog.Moment where
  /-- An event comes in. -/
  | event (e : Event)
  /-- The log is asked to stop. -/
  | cancel
  /-- The log has its turn, at an instant. -/
  | turn (time : Instant)
  deriving DecidableEq, Repr

namespace RunLog

/-- A log that has just been opened. -/
def opened (level : Nat) (capacity : Nat) : RunLog :=
  ⟨level, .withCapacity capacity, false, false, false, []⟩

/-- **The log has its turn**: it looks at its mailbox, or whether it has been asked to stop if it has
just found the mailbox empty. -/
def turn (l : RunLog) (time : Instant) : RunLog :=
  if l.stopped then l
  else if l.foundEmpty then { l with foundEmpty := false, stopped := l.cancelled }
  else
    match l.mailbox.take? with
    | some (e, mailbox) =>
      { l with
        mailbox
        written := if LogEntry.admits l.level e then l.written ++ [.ofEvent time e] else l.written }
    | none => { l with foundEmpty := true }

/-- One moment of a log. -/
def step (l : RunLog) : Moment → RunLog
  | .event e => { l with mailbox := l.mailbox.put e }
  | .cancel => { l with cancelled := true }
  | .turn time => l.turn time

/-- **What becomes of a log.** -/
def run (l : RunLog) (ms : List Moment) : RunLog := ms.foldl step l

/-- The turns that a log needs at most until it stops, once it has been asked to. -/
def lastTurns (l : RunLog) (time : Instant) : List Moment :=
  List.replicate (l.mailbox.unread.length + 2) (.turn time)

/-- **What the file holds.** -/
def text (l : RunLog) : String := String.join (l.written.map LogEntry.line)

/-- The name of the file of a log that is opened at an instant: its digits to the second. -/
def fileName (t : Instant) : String :=
  String.ofList ((t.dateText ++ "_" ++ t.timeText).toList.filter fun c => c.isDigit || c = '_')
    ++ ".jsonl"

end RunLog

end Flowgraph
