import Flowgraph.Handler.Registry
import Flowgraph.Operation.Basic

/-!
# Running a flow

A run starts at the trigger of a flow and goes from node to node: the handler of a node puts out a
payload and chooses a port, and the port chooses the edge to the next node.  The run ends well at a
node that chooses no port or a port without an edge; it fails when a handler fails, when it is
cancelled and when it would take more steps than it may.  Whatever happens, it leaves one record in
the log.
-/

namespace Flowgraph

namespace Graph

/-- **The edge that a run follows**: the first one through the port, else the first one without a
port. -/
def nextEdge? (g : Graph) (node port : String) : Option Edge :=
  let out := g.outbound node none
  (out.find? fun e => e.leavesBy port).or (out.find? fun e => e.sourcePort.isNone)

/-- The node that an edge leads to: of several nodes with its id, the last. -/
def target? (g : Graph) (e : Edge) : Option Node := g.nodes.reverse.find? (·.id == e.target)

end Graph

/-- Lets a reaction take its time, and gives what comes of it. -/
def Reaction.settle (r : Reaction) : Operation (Except Fault Outcome) := do
  if r.wait = 0 then return r.result
  else
    match ← Operation.request (.wait r.wait) with
    | .elapsed => return r.result
    | .cancelled => return .error .cancelled

/-! ### The walk from node to node -/

/-- What a run has done so far. -/
structure Progress where
  context : Context
  /-- The steps taken, the newest first. -/
  taken : List Step

/-- What a run has done once it is over. -/
structure Ending where
  progress : Progress
  /-- What went wrong, and the node that was due. -/
  fault : Option (Fault × String)

/-- **What runs flows**: the handlers of the nodes, and how many steps a run may take. -/
structure Executor where
  handlers : Registry
  limit : Nat

namespace Executor

/-- The number of steps a run may take when nothing else is said. -/
def standardLimit : Nat := 1000

/-- The executor with a limit of steps; a run may always take one. -/
def withLimit (handlers : Registry) (limit : Nat) : Executor := ⟨handlers, max limit 1⟩

/-- The progress after a node whose handler left a context and gave an outcome. -/
def advance (p : Progress) (node : Node) (left : Context) (outcome : Outcome) : Progress :=
  ⟨{ left with input := outcome.output.getD left.input },
    ⟨node.id, node.type, outcome.output, outcome.port⟩ :: p.taken⟩

/-- **Walks from a node on**, with some steps left. -/
def walk (x : Executor) (g : Graph) (runId flowId : String) :
    (left : Nat) → Node → Progress → Operation Ending
  | 0, node, p => do
    -- a cancellation is found first, even when there are no steps left
    if ← Operation.request .isCancelled then return ⟨p, some (.cancelled, node.id)⟩
    else return ⟨p, some (.maxSteps x.limit, node.id)⟩
  | left + 1, node, p => do
    if ← Operation.request .isCancelled then return ⟨p, some (.cancelled, node.id)⟩
    else
      let reaction := x.handlers.get node.type node p.context
      match ← reaction.settle with
      | .error e =>
        -- the node that fails is no step, but what its handler did to the context stays
        return ⟨{ p with context := reaction.context }, some (e, node.id)⟩
      | .ok outcome =>
        let p := advance p node reaction.context outcome
        Operation.request
          (.publish (.nodeCompleted runId flowId node.id node.type outcome.port))
        match outcome.port.bind fun port => g.nextEdge? node.id port with
        | none => return ⟨p, none⟩
        | some e =>
          match g.target? e with
          | some next => walk x g runId flowId left next p
          | none => return ⟨p, some (.handlerFailure e.id (.missingTarget e.target), node.id)⟩

/-! ### The whole run -/

/-- **What a run leaves behind**: its record, what it carried, and the flow with its new life. -/
structure Finished where
  record : Record
  context : Context
  flow : Flow

/-- The record of a run that has just started. -/
def opening (runId : String) (flow : Flow) (startedAt : Instant) (ctx : Context) : Record :=
  ⟨runId, flow.id, startedAt, none, ctx.input, [], ctx.input, false, none⟩

/-- The record of a run that has ended. -/
def closing (r : Record) (e : Ending) (completedAt : Instant) : Record :=
  { r with
    completedAt := some completedAt
    steps := e.progress.taken.reverse
    output := e.progress.context.input
    success := e.fault.isNone
    error := e.fault.map fun (fault, node) => .ofFault fault (some node) }

/-- The event that ends a run. -/
def lastEvent (r : Record) : Option Failure → Event
  | none => .runCompleted r.runId r.flowId r.steps.length
  | some failure => .runFailed r.runId r.flowId failure.message

/-- **Runs a flow.**  A flow without a trigger fails at once and keeps its life; any other is
running until the run is over, and then active or in error. -/
def run (x : Executor) (flow : Flow) (ctx : Context) : Operation Finished := do
  let runId ← Operation.request .freshRunId
  let startedAt ← Operation.request .clock
  let opened := opening runId flow startedAt ctx
  match flow.trigger? with
  | none =>
    -- such a run never starts: there is no event of its start, nor of a status
    let failure := Failure.ofFault (.noTrigger flow.id) none
    let completedAt ← Operation.request .clock
    let record := { opened with completedAt := some completedAt, error := some failure }
    Operation.request (.publish (lastEvent record record.error))
    let _ ← Operation.request (.append record)
    return ⟨record, ctx, flow⟩
  | some trigger =>
    let started := flow.withLife .running (some startedAt)
    Operation.request (.publish (.statusChanged flow.id started.status))
    Operation.request (.publish (.runStarted runId flow.id))
    let ending ← x.walk flow.graph runId flow.id x.limit trigger ⟨ctx, []⟩
    let completedAt ← Operation.request .clock
    let record := closing opened ending completedAt
    let ended := started.withLife (if record.success then .active else .error) (some startedAt)
    Operation.request (.publish (lastEvent record record.error))
    Operation.request (.publish (.statusChanged flow.id ended.status))
    let _ ← Operation.request (.append record)
    return ⟨record, ending.progress.context, ended⟩

end Executor

end Flowgraph
