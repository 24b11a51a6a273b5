import Flowgraph.Fault
import Flowgraph.Time.Data

/-!
# Records of runs

Each run of a flow leaves one record, which names what it was triggered with, the steps that it
took and how it ended.  A record does not change once it is in the log.
-/

namespace Flowgraph

/-- **One step of a run**: the node that was executed, what it put out and the port that it
chose. -/
structure Step where
  nodeId : String
  nodeType : String
  output : Option Json
  port : Option String
  deriving DecidableEq, Repr

namespace Step

/-- The members of a step in data. -/
def fields : List Field :=
  [.required "node_id" Decoder.string, .required "type" Decoder.string,
    .withDefault "output" (Decoder.optional Decoder.value) none,
    .withDefault "port" (Decoder.optional Decoder.string) none]

/-- Reads a step. -/
def decoder : Decoder Step := fun t =>
  (Decoder.record "StepResult" fields t).map fun (nodeId, nodeType, output, port, ()) =>
    ⟨nodeId, nodeType, output, port⟩

/-- The data of a step. -/
def toJson (s : Step) : Json :=
  Json.ofMembers [("node_id", .str s.nodeId), ("type", .str s.nodeType),
    ("output", .ofOption s.output), ("port", .ofOption (s.port.map .str))]

end Step

/-- **How a run failed**: the kind of the fault, its text and the node that was due. -/
structure Failure where
  kind : String
  message : String
  nodeId : Option String
  deriving DecidableEq, Repr

namespace Failure

/-- The failure for a fault at a node. -/
def ofFault (fault : Fault) (nodeId : Option String) : Failure :=
  ⟨fault.kind, fault.message, nodeId⟩

/-- The members of a failure in data. -/
def fields : List Field :=
  [.required "kind" Decoder.string, .required "message" Decoder.string,
    .withDefault "node_id" (Decoder.optional Decoder.string) none]

/-- Reads a failure. -/
def decoder : Decoder Failure := fun t =>
  (Decoder.record "RunError" fields t).map fun (kind, message, nodeId, ()) =>
    ⟨kind, message, nodeId⟩

/-- The data of a failure. -/
def toJson (f : Failure) : Json :=
  Json.ofMembers ([("kind", .str f.kind), ("message", .str f.message)]
    ++ match f.nodeId with
      | some id => [("node_id", .str id)]
      | none => [])

end Failure

/-- **The record of a run.** -/
structure Record where
  runId : String
  flowId : String
  startedAt : Instant
  completedAt : Option Instant
  /-- The payload that triggered the run. -/
  trigger : Json
  steps : List Step
  /-- The payload after the last step. -/
  output : Json
  success : Bool
  error : Option Failure
  deriving DecidableEq, Repr

namespace Record

/-- The nodes that were executed, in order. -/
def path (r : Record) : List String := r.steps.map (·.nodeId)

/-- The milliseconds that the run took, if it has ended. -/
def elapsed? (r : Record) : Option Int := r.completedAt.map (·.millisSince r.startedAt)

/-- The members of a record in data. -/
def fields : List Field :=
  [.required "run_id" Decoder.string, .required "flow_id" Decoder.string,
    .required "started_at" Instant.decoder,
    .withDefault "completed_at" (Decoder.optional Instant.decoder) none,
    .withDefault "trigger" Decoder.value .null, .required "steps" (Decoder.list Step.decoder),
    .withDefault "output" Decoder.value .null, .required "success" Decoder.boolean,
    .withDefault "error" (Decoder.optional Failure.decoder) none]

/-- **Reads a record** as `toJson` writes it. -/
def decoder : Decoder Record := fun t =>
  (Decoder.record "ExecutionRecord" fields t).map
    fun (runId, flowId, startedAt, completedAt, trigger, steps, output, success, error, ()) =>
      ⟨runId, flowId, startedAt, completedAt, trigger, steps, output, success, error⟩

/-- The data of a record. -/
def toJson (r : Record) : Json :=
  Json.ofMembers [("run_id", .str r.runId), ("flow_id", .str r.flowId),
    ("started_at", r.startedAt.toJson),
    ("completed_at", .ofOption (r.completedAt.map Instant.toJson)),
    ("trigger", r.trigger), ("steps", .arr (r.steps.map Step.toJson)), ("output", r.output),
    ("success", .bool r.success), ("error", .ofOption (r.error.map Failure.toJson))]

end Record

end Flowgraph
