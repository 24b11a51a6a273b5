import Flowgraph.Flow.Status
import Flowgraph.Graph.Basic
import Flowgraph.Time.Data

/-!
# Flows

A flow is a graph with a name and a life: a status, the instant at which it was created and the
instant at which its last run started.  Its definition (name, description and graph) and its life
change separately.
-/

namespace Flowgraph

/-- **A stored flow.** -/
structure Flow where
  id : String
  name : String
  description : String
  graph : Graph
  status : Status
  createdAt : Instant
  /-- When the last run started. -/
  lastRun : Option Instant
  deriving DecidableEq, Repr

namespace Flow

/-- A flow that has never been run. -/
def fresh (id name description : String) (graph : Graph) (createdAt : Instant) : Flow :=
  ⟨id, name, description, graph, .inactive, createdAt, none⟩

/-- The flow with a life of its own: never run. -/
def neverRun (f : Flow) : Flow := { f with status := .inactive, lastRun := none }

/-- The flow with another status and last run. -/
def withLife (f : Flow) (status : Status) (lastRun : Option Instant) : Flow :=
  { f with status, lastRun }

/-- The node at which runs of the flow start. -/
def trigger? (f : Flow) : Option Node := f.graph.trigger?

/-- Checks the graph of the flow. -/
def validate (f : Flow) : Except Fault Unit := f.graph.validate.mapError .malformedGraph

/-- The flow with another graph, if that is well formed. -/
def replaceGraph (f : Flow) (g : Graph) : Except Fault Flow := do
  let g ← g.validated.mapError .malformedGraph
  return { f with graph := g }

/-- The members of a flow in data. -/
def fields : List Field :=
  [.required "id" Decoder.string, .required "name" Decoder.string,
    .withDefault "description" Decoder.string "",
    .required "nodes" (Decoder.list Node.decoder), .required "edges" (Decoder.list Edge.decoder),
    .withDefault "status" Status.decoder .inactive, .required "created_at" Instant.decoder,
    .withDefault "last_run" (Decoder.optional Instant.decoder) none]

/-- **Reads a flow** as `toJson` writes it.  Its graph may be any; see `validate`. -/
def decoder : Decoder Flow := fun t =>
  (Decoder.record "Flow" fields t).map
    fun (id, name, description, nodes, edges, status, createdAt, lastRun, ()) =>
      ⟨id, name, description, ⟨nodes, edges⟩, status, createdAt, lastRun⟩

/-- The data of a flow. -/
def toJson (f : Flow) : Json :=
  Json.ofMembers [("id", .str f.id), ("name", .str f.name), ("description", .str f.description),
    ("nodes", .arr (f.graph.nodes.map Node.toJson)),
    ("edges", .arr (f.graph.edges.map Edge.toJson)), ("status", f.status.toJson),
    ("created_at", f.createdAt.toJson), ("last_run", .ofOption (f.lastRun.map Instant.toJson))]

end Flow

end Flowgraph
