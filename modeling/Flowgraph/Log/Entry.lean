import Flowgraph.Json.Writer
import Flowgraph.Run.Event
import Flowgraph.Time.Rfc3339

/-!
# Entries of the log of runs

The log has one line for each event that its level lets in: how runs begin and end at every level,
each step, each new status and each firing of a schedule from level two on.
-/

namespace Flowgraph

/-- **An entry of the log.** -/
structure LogEntry where
  time : Instant
  kind : String
  flowId : String
  runId : Option String
  detail : Option Json
  deriving DecidableEq, Repr

namespace LogEntry

/-- The event is about a run as a whole. -/
def isSummary : Event → Bool
  | .runStarted _ _ | .runCompleted _ _ _ | .runFailed _ _ _ => true
  | .nodeCompleted _ _ _ _ _ | .statusChanged _ _ | .scheduleFired _ _ => false

/-- **A log of this level lets the event in.** -/
def admits (level : Nat) (e : Event) : Bool := isSummary e || 2 ≤ level

/-- What the log says about an event beyond its kind, its flow and its run. -/
def detail? : Event → Option Json
  | .runStarted _ _ => none
  | .nodeCompleted _ _ nodeId nodeType port =>
    some (Json.ofMembers [("node_id", .str nodeId), ("type", .str nodeType),
      ("port", .ofOption (port.map .str))])
  | .runCompleted _ _ steps => some (Json.ofMembers [("steps", .ofNat steps)])
  | .runFailed _ _ error => some (Json.ofMembers [("error", .str error)])
  | .statusChanged _ status => some (Json.ofMembers [("status", status.toJson)])
  | .scheduleFired schedule _ => some (Json.ofMembers [("schedule", .str schedule)])

/-- The entry for an event that is read at an instant. -/
def ofEvent (time : Instant) (e : Event) : LogEntry :=
  ⟨time, e.kind, e.flowId, e.runId?, detail? e⟩

/-- The members of an entry as they are written, one after the other; what is absent is left out. -/
def members (l : LogEntry) : List (String × Json) :=
  [("timestamp", .str l.time.rowText), ("event_type", .str l.kind), ("flow_id", .str l.flowId)]
    ++ l.runId.toList.map (fun id => ("run_id", .str id))
    ++ l.detail.toList.map (fun d => ("detail", d))

/-- **The line of an entry.** -/
def line (l : LogEntry) : String := "\x7b" ++ Json.compactMembers l.members ++ "\x7d" ++ "\n"

end LogEntry

end Flowgraph
