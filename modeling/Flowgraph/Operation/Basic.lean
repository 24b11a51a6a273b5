import Flowgraph.Flow.Basic
import Flowgraph.Interaction
import Flowgraph.Run.Event
import Flowgraph.Run.Record

/-!
# Operations

An operation works on what others work on at the same time: the stored flows, the log of runs and
the stream of events.  It is an interaction that makes requests of them, and each request is
answered at one moment, whatever happens between two requests of one operation.

A request to wait is the only one whose answer may take time.
-/

namespace Flowgraph

/-- How a wait ends. -/
inductive Waited where
  /-- The time has passed. -/
  | elapsed
  /-- The operation has been cancelled before. -/
  | cancelled
  deriving DecidableEq, Repr

/-- **What an operation may ask for.** -/
inductive Request where
  /-- Stores a new flow. -/
  | insert (flow : Flow)
  /-- Loads a flow. -/
  | get (id : String)
  /-- Loads every flow, oldest first. -/
  | list
  /-- Replaces the definition of a stored flow; tells whether there was one. -/
  | update (flow : Flow)
  /-- Replaces the life of a stored flow, if there is one. -/
  | setLife (id : String) (status : Status) (lastRun : Option Instant)
  /-- Removes a flow; tells whether there was one. -/
  | delete (id : String)
  /-- Adds a record to the log. -/
  | append (record : Record)
  /-- Loads the records of the log in their order, of one flow or of all. -/
  | records (flow : Option String)
  /-- Tells the outside world. -/
  | publish (event : Event)
  /-- Reads the clock. -/
  | clock
  /-- Makes an id that no flow has. -/
  | freshFlowId
  /-- Makes an id that no run has. -/
  | freshRunId
  /-- Asks whether the operation has been cancelled. -/
  | isCancelled
  /-- Waits for some milliseconds, or until the operation is cancelled. -/
  | wait (millis : Nat)
  deriving Repr

/-- What answers a request. -/
@[reducible] def Request.Answer : Request → Type
  | .insert _ => Except Fault Unit
  | .get _ => Except Fault (Option Flow)
  | .list => Except Fault (List Flow)
  | .update _ => Except Fault Bool
  | .setLife _ _ _ => Except Fault Unit
  | .delete _ => Except Fault Bool
  | .append _ => Except Fault Unit
  | .records _ => Except Fault (List Record)
  | .publish _ => Unit
  | .clock => Instant
  | .freshFlowId => String
  | .freshRunId => String
  | .isCancelled => Bool
  | .wait _ => Waited

/-- The answer to a request that would change the store, where the store refuses it for a cause. -/
def Request.refusal? (cause : Fault) : (q : Request) → Option q.Answer
  | .insert _ | .update _ | .setLife _ _ _ | .delete _ | .append _ => some (.error cause)
  | _ => none

/-- **An operation** that ends with a value. -/
abbrev Operation : Type → Type := Interaction Request Request.Answer

/-- The operation of one request. -/
def Operation.request (q : Request) : Operation q.Answer := Interaction.request q

end Flowgraph
