import Flowgraph.Graph.Node

/-!
# Edges

An edge leads from a node to a node.  It leaves its source through a port; one without a port is
followed when no edge has the port that was chosen.  As for nodes there are two readers, one of
stored data and one of submitted specifications.
-/

namespace Flowgraph

/-- **An edge of a flow.** -/
structure Edge where
  id : String
  source : String
  target : String
  /-- The port through which the edge leaves its source. -/
  sourcePort : Option String
  /-- The port through which the edge enters its target.  No run reads it. -/
  targetPort : Option String
  deriving DecidableEq, Repr

namespace Edge

/-- The edge leaves through this port. -/
def leavesBy (e : Edge) (port : String) : Bool := e.sourcePort == some port

/-! ### As stored data -/

/-- The members of an edge in data. -/
def fields : List Field :=
  [.required "id" Decoder.string, .required "source" Decoder.string,
    .required "target" Decoder.string,
    { Field.withDefault "sourceHandle" (Decoder.optional Decoder.string) none with
      aliases := ["source_handle"] },
    { Field.withDefault "targetHandle" (Decoder.optional Decoder.string) none with
      aliases := ["target_handle"] }]

/-- **Reads an edge** as `toJson` writes it.  An empty port is a port like any other. -/
def decoder : Decoder Edge := fun t =>
  (Decoder.record "Edge" fields t).map fun (id, source, target, sourcePort, targetPort, ()) =>
    ⟨id, source, target, sourcePort, targetPort⟩

/-- A member for a port, if there is one. -/
def portMember (key : String) (port : Option String) : List (String × Json) :=
  match port with
  | some p => [(key, .str p)]
  | none => []

/-- The data of an edge. -/
def toJson (e : Edge) : Json :=
  Json.ofMembers ([("id", .str e.id), ("source", .str e.source), ("target", .str e.target)]
    ++ portMember "sourceHandle" e.sourcePort ++ portMember "targetHandle" e.targetPort)

/-! ### As a submitted specification -/

/-- A port of a specification, under its own name or else its other one; an empty port counts as
none, and so does one that is not a text. -/
def specPort? (members : List (String × Json)) (key other : String) : Option String :=
  match ((Json.lookup key members).or (Json.lookup other members)).bind Json.text? with
  | some s => if s.isEmpty then none else some s
  | none => none

/-- **Reads a specification of an edge.**  Its id and both ends must not be blank. -/
def ofSpec (spec : Json) : Except GraphFault Edge := do
  match spec with
  | .obj members =>
    let some id := Node.requiredText? members "id" | throw (.edgeLacks none "id")
    let some source := Node.requiredText? members "source" | throw (.edgeLacks (some id) "source")
    let some target := Node.requiredText? members "target" | throw (.edgeLacks (some id) "target")
    return ⟨id, source, target, specPort? members "sourceHandle" "source_handle",
      specPort? members "targetHandle" "target_handle"⟩
  | _ => throw .edgeNotObject

end Edge

end Flowgraph
