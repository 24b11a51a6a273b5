import Flowgraph.Flow.Basic

/-!
# Drafts and updates

What is submitted to create a flow, and what is submitted to change one.  Both carry nodes and
edges as specifications, which are read only when the draft or the update is applied.
-/

namespace Flowgraph

/-- **What a new flow is made from.** -/
structure Draft where
  name : String
  description : String
  nodes : List Json
  edges : List Json
  deriving Repr

namespace Draft

/-- The members of a draft in data. -/
def fields : List Field :=
  [.required "name" Decoder.string, .withDefault "description" Decoder.string "",
    .withDefault "nodes" (Decoder.list Decoder.value) [],
    .withDefault "edges" (Decoder.list Decoder.value) []]

/-- Reads a draft. -/
def decoder : Decoder Draft := fun t =>
  (Decoder.record "FlowDraft" fields t).map fun (name, description, nodes, edges, ()) =>
    ⟨name, description, nodes, edges⟩

/-- The graph that the draft describes. -/
def graph (d : Draft) : Except Fault Graph :=
  (Graph.ofSpecs d.nodes d.edges).mapError .malformedGraph

end Draft

/-- **What is to change in a flow.**  What is left out stays as it is. -/
structure Update where
  name : Option String
  description : Option String
  nodes : Option (List Json)
  edges : Option (List Json)
  deriving Repr

namespace Update

/-- The members of an update in data. -/
def fields : List Field :=
  [.withDefault "name" (Decoder.optional Decoder.string) none,
    .withDefault "description" (Decoder.optional Decoder.string) none,
    .withDefault "nodes" (Decoder.optional (Decoder.list Decoder.value)) none,
    .withDefault "edges" (Decoder.optional (Decoder.list Decoder.value)) none]

/-- Reads an update. -/
def decoder : Decoder Update := fun t =>
  (Decoder.record "FlowUpdate" fields t).map fun (name, description, nodes, edges, ()) =>
    ⟨name, description, nodes, edges⟩

/-- One half of a graph: read from the specifications if there are any, else kept. -/
def half {α : Type} (read : Json → Except GraphFault α) (kept : List α) :
    Option (List Json) → Except Fault (List α)
  | some specs => (specs.mapM read).mapError .malformedGraph
  | none => .ok kept

/-- **The flow after the update.**  A blank name counts as left out.  If either half of the graph
is given, the two halves together must be well formed. -/
def apply (u : Update) (f : Flow) : Except Fault Flow := do
  let name := (u.name.filter fun n => !Text.isBlank n).getD f.name
  let f := { f with name, description := u.description.getD f.description }
  if u.nodes.isSome || u.edges.isSome then
    -- a half that is not given is the one that was loaded, and is checked again
    let nodes ← half Node.ofSpec f.graph.nodes u.nodes
    let edges ← half Edge.ofSpec f.graph.edges u.edges
    f.replaceGraph ⟨nodes, edges⟩
  else return f

end Update

end Flowgraph
