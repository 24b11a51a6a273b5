import Flowgraph.Graph.Edge

/-!
# Graphs

A graph is its nodes and its edges, each in the order of declaration.  `Graph.validate` refuses a
graph with a blank or repeated node id, a repeated edge id or an edge that ends nowhere, and names
the first such fault; `Graph.WellFormed` says what it means to have none.
-/

namespace Flowgraph

/-- **The graph of a flow.** -/
structure Graph where
  nodes : List Node
  edges : List Edge
  deriving DecidableEq, Repr

namespace Graph

/-- A graph without nodes. -/
def empty : Graph := ⟨[], []⟩

/-- The ids of the nodes, in order. -/
def nodeIds (g : Graph) : List String := g.nodes.map (·.id)

/-- The ids of the edges, in order. -/
def edgeIds (g : Graph) : List String := g.edges.map (·.id)

/-- **A well-formed graph**: node ids are distinct and not blank, edge ids are distinct, and every
edge leads from a node of the graph to a node of the graph. -/
structure WellFormed (g : Graph) : Prop where
  nodeIds_notBlank : ∀ n ∈ g.nodes, Text.isBlank n.id = false
  nodeIds_nodup : g.nodeIds.Nodup
  edgeIds_nodup : g.edgeIds.Nodup
  source_mem : ∀ e ∈ g.edges, e.source ∈ g.nodeIds
  target_mem : ∀ e ∈ g.edges, e.target ∈ g.nodeIds

/-- Checks the nodes one after the other, against the ids seen before. -/
def checkNodes (seen : List String) : List Node → Except GraphFault Unit
  | [] => .ok ()
  | n :: rest =>
    if Text.isBlank n.id then .error .blankNodeId
    else if seen.contains n.id then .error (.duplicateNode n.id)
    else checkNodes (n.id :: seen) rest

/-- Checks the edges one after the other, against the ids of the nodes and the edge ids seen
before. -/
def checkEdges (nodes seen : List String) : List Edge → Except GraphFault Unit
  | [] => .ok ()
  | e :: rest =>
    if seen.contains e.id then .error (.duplicateEdge e.id)
    else if !nodes.contains e.source then .error (.unknownEndpoint e.id e.source)
    else if !nodes.contains e.target then .error (.unknownEndpoint e.id e.target)
    else checkEdges nodes (e.id :: seen) rest

/-- **Finds the first fault of a graph**, the nodes before the edges. -/
def validate (g : Graph) : Except GraphFault Unit := do
  checkNodes [] g.nodes
  checkEdges g.nodeIds [] g.edges

/-- The graph itself, if it is well formed. -/
def validated (g : Graph) : Except GraphFault Graph := do
  g.validate
  return g

/-- **Reads the specifications of a graph**: all nodes, then all edges, then the graph they form. -/
def ofSpecs (nodes edges : List Json) : Except GraphFault Graph := do
  let nodes ← nodes.mapM Node.ofSpec
  let edges ← edges.mapM Edge.ofSpec
  validated ⟨nodes, edges⟩

/-- The first node with an id. -/
def node? (g : Graph) (id : String) : Option Node := g.nodes.find? (·.id == id)

/-- The node at which runs start: the first trigger. -/
def trigger? (g : Graph) : Option Node := g.nodes.find? Node.isTrigger

/-- The edges that leave a node, through the given port if one is given. -/
def outbound (g : Graph) (id : String) (port : Option String) : List Edge :=
  g.edges.filter fun e => e.source == id && port.all e.leavesBy

end Graph

end Flowgraph
