import Flowgraph.Session.World

/-!
# Several operations at a time

A session has one operation in the foreground and any number in the background.  Only one of them
goes on at any moment, and it goes on until it waits or is done.  The background has its turn while
the foreground waits: what is due goes on in the order in which it came to wait, and when nothing
is due any more, time passes until something is.

A session may leave its store for a new one.  What runs in the background then goes on with the
store that it was started on.
-/

namespace Flowgraph

/-- **How far a background operation has come.** -/
inductive Phase (α : Type) where
  /-- It can go on. -/
  | due (rest : Operation α)
  /-- It waits until a time. -/
  | waiting (wake : Nat) (next : Waited → Operation α)
  | ended (value : α)
  /-- Its value has been taken. -/
  | collected

/-- **A background operation.** -/
structure Job (α : Type) where
  /-- Of the operations that can go on, the one with the least number does. -/
  turn : Nat
  /-- The store that it works on, counted in the order of their use. -/
  era : Nat
  /-- When it is cancelled. -/
  cancelAt : Option Nat
  phase : Phase α

namespace Job

variable {α : Type}

/-- The time at which a waiting operation goes on. -/
def wake? (j : Job α) : Option Nat :=
  match j.phase with
  | .waiting wake _ => some (World.earlier wake j.cancelAt)
  | _ => none

/-- The operation can go on at this time. -/
def isDue (time : Nat) (j : Job α) : Bool :=
  match j.phase with
  | .due _ => true
  | .waiting wake _ => decide (World.earlier wake j.cancelAt ≤ time)
  | _ => false

/-- What is left of an operation that can go on. -/
def rest? (j : Job α) : Option (Operation α) :=
  match j.phase with
  | .due rest => some rest
  | .waiting wake next => some (next (World.waited (World.earlier wake j.cancelAt) wake))
  | _ => none

end Job

/-- Where an operation stops: at its end or at a wait. -/
inductive Stop (α : Type) where
  | ended (value : α)
  | waits (millis : Nat) (next : Waited → Operation α)

namespace World

/-- **Lets an operation go on** until it waits or is done. -/
def runToWait {α : Type} (cancelAt : Option Nat) : Operation α → World → Stop α × World
  | .done a, w => (.ended a, w)
  | .ask (.wait n) next, w =>
    if w.isCancelledBy cancelAt then runToWait cancelAt (next .cancelled) w
    else if n = 0 then runToWait cancelAt (next .elapsed) w
    else (.waits n next, w)
  | .ask q next, w =>
    let (a, w') := w.answer (w.isCancelledBy cancelAt) q
    runToWait cancelAt (next a) w'

end World

/-- **A session.** -/
structure Session (α : Type) where
  world : World
  /-- The stores that were left, in the order of their use. -/
  past : List Store
  /-- The background operations, in the order in which they were started. -/
  jobs : List (Job α)
  /-- The next turn. -/
  turns : Nat

namespace Session

variable {α β : Type}

/-- The session in a world, with nothing in the background. -/
def start (w : World) : Session α := ⟨w, [], [], 0⟩

/-- The era of the store in use. -/
def era (s : Session α) : Nat := s.past.length

/-- Leaves the store for another one. -/
def moveTo (s : Session α) (store : Store) : Session α :=
  { s with past := s.past ++ [s.world.store], world := { s.world with store } }

/-- Works in the world with the store of an era. -/
def within (era : Nat) (f : World → β × World) (s : Session α) : β × Session α :=
  match s.past[era]? with
  | none =>
    let (b, w) := f s.world
    (b, { s with world := w })
  | some old =>
    -- the rest of the world is shared; only the store is that of the era
    let (b, w) := f { s.world with store := old }
    (b, { s with world := { w with store := s.world.store }, past := s.past.set era w.store })

/-- Starts an operation in the background. -/
def spawn (o : Operation α) (cancelAt : Option Nat) (s : Session α) : Session α :=
  { s with jobs := s.jobs ++ [⟨s.turns, s.era, cancelAt, .due o⟩], turns := s.turns + 1 }

/-! ### The background -/

/-- The phase of an operation that has stopped at this time. -/
def phaseAt (time : Nat) : Stop α → Phase α
  | .ended a => .ended a
  | .waits n next => .waiting (time + n) next

/-- **Lets one background operation go on** until it stops, if it can go on. -/
def advance (s : Session α) (i : Nat) : Session α :=
  match s.jobs[i]? with
  | none => s
  | some j =>
    match j.rest? with
    | none => s
    | some rest =>
      let (stop, s) := s.within j.era (World.runToWait j.cancelAt rest)
      { s with
        jobs := s.jobs.set i { j with turn := s.turns, phase := phaseAt s.world.time stop }
        turns := s.turns + 1 }

/-- The background operations that can go on and satisfy a test on their turn, in the order of
their turns. -/
def dueIndices (s : Session α) (picked : Nat → Bool) : List Nat :=
  let due := (s.jobs.zipIdx.filter fun (j, _) => j.isDue s.world.time && picked j.turn).map
    fun (j, i) => (j.turn, i)
  (due.mergeSort fun a b => decide (a.1 ≤ b.1)).map (·.2)

/-- Lets the background operations go on that can and satisfy a test on their turn. -/
def drainWhere (picked : Nat → Bool) (s : Session α) : Session α :=
  (s.dueIndices picked).foldl advance s

/-- **Lets the background go on** until all of it waits or is done. -/
def drain (s : Session α) : Session α := s.drainWhere fun _ => true

/-- The least of some numbers. -/
def least? : List Nat → Option Nat
  | [] => none
  | n :: rest => some ((least? rest).elim n (min n))

/-- The time at which the next background operation goes on. -/
def nextWake? (s : Session α) : Option Nat := least? (s.jobs.filterMap Job.wake?)

/-- The session at a later time. -/
def atTime (s : Session α) (time : Nat) : Session α := { s with world := { s.world with time } }

/-- **Lets time pass** up to a given time.  What the background does before that time is done; what
comes due at it is not. -/
def passTo (time : Nat) (s : Session α) : Session α :=
  let drained := s.drain
  match drained.nextWake? with
  | some wake =>
    if s.world.time < wake ∧ wake < time then passTo time (drained.atTime wake)
    else drained.atTime (max time s.world.time)
  | none => drained.atTime (max time s.world.time)
termination_by time - s.world.time
decreasing_by simp only [atTime]; omega

/-- Lets some milliseconds pass. -/
def sleep (millis : Nat) (s : Session α) : Session α :=
  if millis = 0 then s else s.passTo (s.world.time + millis)

/-! ### The foreground -/

/-- **Runs an operation in the foreground.**  When its wait is over it goes on before anything
else. -/
def runForeground (cancelAt : Option Nat) : Operation β → Session α → β × Session α
  | .done b, s => (b, s)
  | .ask (.wait n) next, s =>
    if s.world.isCancelledBy cancelAt then runForeground cancelAt (next .cancelled) s
    else if n = 0 then runForeground cancelAt (next .elapsed) s
    else
      let due := s.world.time + n
      let wake := World.earlier due cancelAt
      runForeground cancelAt (next (World.waited wake due)) (s.passTo wake)
  | .ask q next, s =>
    let (a, w) := s.world.answer (s.world.isCancelledBy cancelAt) q
    runForeground cancelAt (next a) { s with world := w }

/-- Puts a background operation in its place. -/
def setJob (s : Session α) (i : Nat) (j : Job α) : Session α := { s with jobs := s.jobs.set i j }

/-- A time is not before the limit, if there is one. -/
def reaches (limit : Option Nat) (time : Nat) : Bool := limit.any (decide <| · ≤ time)

/-- **Waits for the end of a background operation** that keeps its place among the others, but not
beyond the limit.  While it is followed, it counts as collected. -/
def follow (limit : Option Nat) (i : Nat) (j : Job α) :
    Operation α → Session α → Option α × Session α
  | .done a, s => (some a, s.drain)
  | .ask (.wait n) next, s =>
    if s.world.isCancelledBy j.cancelAt then follow limit i j (next .cancelled) s
    else if n = 0 then follow limit i j (next .elapsed) s
    else
      let due := s.world.time + n
      let wake := World.earlier due j.cancelAt
      let turn := s.turns
      let s : Session α := { s with turns := turn + 1 }
      -- the limit comes before the end of the wait: the operation goes back to the others
      if reaches limit wake then
        (none, (s.setJob i { j with turn, phase := .waiting due next }).passTo
          (World.earlier wake limit))
      else
        -- what had its turn before the wait began goes on first
        follow limit i j (next (World.waited wake due))
          ((s.passTo wake).drainWhere (decide <| · < turn))
  | .ask q next, s =>
    let (a, s) := s.within j.era fun w => w.answer (w.isCancelledBy j.cancelAt) q
    follow limit i j (next a) s

/-- **Takes the value of a background operation** once it is done, if that is before the limit.
There is none for an operation that does not exist or whose value has been taken. -/
def join (limit : Option Nat) (s : Session α) (i : Nat) : Option α × Session α :=
  match s.jobs[i]? with
  | none => (none, s)
  | some j =>
    let taken := s.setJob i { j with phase := .collected }
    match j.phase with
    | .ended a => (some a, taken)
    | .collected => (none, s)
    | .due rest =>
      if reaches limit s.world.time then (none, s)
      else follow limit i j rest (taken.drainWhere (decide <| · < j.turn))
    | .waiting wake next =>
      let goesOn := World.earlier wake j.cancelAt
      if reaches limit (max goesOn s.world.time) then
        (none, s.passTo (World.earlier (max goesOn s.world.time) limit))
      else
        let s := if s.world.time < goesOn then taken.passTo goesOn else taken
        follow limit i j (next (World.waited goesOn wake)) (s.drainWhere (decide <| · < j.turn))

/-- The background operation has been cancelled by now. -/
def isCancelled (s : Session α) (i : Nat) : Bool :=
  (s.jobs[i]?).any fun j => s.world.isCancelledBy j.cancelAt

/-- **Cancels a background operation.**  If it waits, it can go on at once, behind all others that
can. -/
def cancel (s : Session α) (i : Nat) : Session α :=
  match s.jobs[i]? with
  | none => s
  | some j =>
    let j := { j with cancelAt := some (World.earlier s.world.time j.cancelAt) }
    match j.phase with
    | .waiting wake next =>
      if s.world.time < wake then
        { s with
          jobs := s.jobs.set i { j with turn := s.turns, phase := .due (next .cancelled) }
          turns := s.turns + 1 }
      else { s with jobs := s.jobs.set i j }
    | _ => { s with jobs := s.jobs.set i j }

end Session

end Flowgraph
