import Flowgraph.Flow.Status

/-!
# Events

What a run tells the outside world while it goes on.
-/

namespace Flowgraph

/-- **An event.** -/
inductive Event where
  /-- A run has found its trigger and starts. -/
  | runStarted (runId flowId : String)
  /-- A node has been executed and has chosen a port. -/
  | nodeCompleted (runId flowId nodeId nodeType : String) (port : Option String)
  /-- A run has ended well. -/
  | runCompleted (runId flowId : String) (steps : Nat)
  /-- A run has failed. -/
  | runFailed (runId flowId error : String)
  /-- A flow has another status. -/
  | statusChanged (flowId : String) (status : Status)
  /-- A schedule has come due. -/
  | scheduleFired (schedule flowId : String)
  deriving DecidableEq, Repr

namespace Event

/-- The flow that an event is about. -/
def flowId : Event → String
  | runStarted _ flowId | nodeCompleted _ flowId _ _ _ | runCompleted _ flowId _
  | runFailed _ flowId _ | statusChanged flowId _ | scheduleFired _ flowId => flowId

/-- The run that an event is about, if it is about one. -/
def runId? : Event → Option String
  | runStarted runId _ | nodeCompleted runId _ _ _ _ | runCompleted runId _ _
  | runFailed runId _ _ => some runId
  | statusChanged _ _ | scheduleFired _ _ => none

/-- The name of the kind of an event. -/
def kind : Event → String
  | runStarted _ _ => "run_started"
  | nodeCompleted _ _ _ _ _ => "node_completed"
  | runCompleted _ _ _ => "run_completed"
  | runFailed _ _ _ => "run_failed"
  | statusChanged _ _ => "status_changed"
  | scheduleFired _ _ => "schedule_fired"

/-- What else an event says, besides its kind and its flow. -/
def details : Event → List (String × Json)
  | runStarted runId _ => [("run_id", .str runId)]
  | nodeCompleted runId _ nodeId nodeType port =>
    [("run_id", .str runId), ("node_id", .str nodeId), ("node_type", .str nodeType),
      ("port", .ofOption (port.map .str))]
  | runCompleted runId _ steps => [("run_id", .str runId), ("steps", .ofNat steps)]
  | runFailed runId _ error => [("run_id", .str runId), ("error", .str error)]
  | statusChanged _ status => [("status", status.toJson)]
  | scheduleFired schedule _ => [("schedule", .str schedule)]

/-- The data of an event. -/
def toJson (e : Event) : Json :=
  Json.ofMembers ([("event", .str e.kind), ("flow_id", .str e.flowId)] ++ e.details)

end Event

end Flowgraph
