import Flowgraph.Json.Decode
import Flowgraph.Fault
import Flowgraph.Text.Blank

/-!
# Nodes

A node is a typed step of a flow.  Its type is a free text that picks a handler; `NodeType` lists
the types that are built in.  A node comes from data in two ways: `Node.decoder` reads back what
`Node.toJson` writes, and `Node.ofSpec` reads what a person or an editor submits, which may leave
more out but must name the node and its type.
-/

namespace Flowgraph

/-- **The built-in types of nodes.** -/
inductive NodeType where
  | trigger
  | message
  | condition
  | agent
  | delay
  | tag
  | «end»
  deriving DecidableEq, Repr

namespace NodeType

/-- The text that names a type. -/
def name : NodeType → String
  | trigger => "trigger"
  | message => "message"
  | condition => "condition"
  | agent => "agent"
  | delay => "delay"
  | tag => "tag"
  | «end» => "end"

/-- The built-in types, in the order in which an editor offers them. -/
def all : List NodeType := [trigger, message, condition, agent, delay, tag, «end»]

/-- The built-in type of this name. -/
def ofName? (s : String) : Option NodeType := all.find? (·.name == s)

end NodeType

/-- Where an editor draws a node.  No run reads it. -/
structure Position where
  x : Double
  y : Double
  deriving DecidableEq, Repr

namespace Position

/-- The position of a node that has been given none. -/
def origin : Position := ⟨Binary.zero, Binary.zero⟩

/-- The members of a position in data. -/
def fields : List Field :=
  [.withDefault "x" Decoder.double Binary.zero, .withDefault "y" Decoder.double Binary.zero]

/-- Reads a position. -/
def decoder : Decoder Position := fun t =>
  (Decoder.record "Position" fields t).map fun (x, y, ()) => ⟨x, y⟩

/-- The data of a position. -/
def toJson (p : Position) : Json := Json.ofMembers [("x", .ofDouble p.x), ("y", .ofDouble p.y)]

end Position

/-- **A node of a flow.** -/
structure Node where
  id : String
  type : String
  /-- What the handler of the type needs to know. -/
  data : Json
  position : Position
  deriving DecidableEq, Repr

namespace Node

/-- The run of a flow starts at the first node of this kind. -/
def isTrigger (n : Node) : Bool := n.type == NodeType.trigger.name

/-- A text in the data of a node. -/
def dataText? (n : Node) (key : String) : Option String := (n.data.member? key).bind Json.text?

/-! ### As stored data -/

/-- The members of a node in data. -/
def fields : List Field :=
  [.required "id" Decoder.string, .required "type" Decoder.string,
    .withDefault "data" Decoder.value Json.empty,
    .withDefault "position" Position.decoder Position.origin]

/-- **Reads a node** as `toJson` writes it.  Any text will do for its id and type. -/
def decoder : Decoder Node := fun t =>
  (Decoder.record "Node" fields t).map fun (id, type, data, position, ()) =>
    ⟨id, type, data, position⟩

/-- The data of a node. -/
def toJson (n : Node) : Json :=
  Json.ofMembers [("id", .str n.id), ("type", .str n.type), ("data", n.data),
    ("position", n.position.toJson)]

/-! ### As a submitted specification -/

/-- A text that is not blank, from the members of a specification. -/
def requiredText? (members : List (String × Json)) (key : String) : Option String :=
  match (Json.lookup key members).bind Json.text? with
  | some s => if Text.isBlank s then none else some s
  | none => none

/-- A member of a specification that counts as left out when it is `null`. -/
def given? (members : List (String × Json)) (key : String) : Option Json :=
  match Json.lookup key members with
  | some .null => none
  | found => found

/-- **Reads a specification of a node.**  Its id and type must not be blank; data and position may
be left out. -/
def ofSpec (spec : Json) : Except GraphFault Node := do
  match spec with
  | .obj members =>
    let some id := requiredText? members "id" | throw (.nodeLacks none "id")
    let some type := requiredText? members "type" | throw (.nodeLacks (some id) "type")
    let data := (given? members "data").getD Json.empty
    let position ←
      match given? members "position" with
      | none => pure Position.origin
      | some p => (Decoder.ofJson Position.decoder p).mapError (.badPosition id)
    return ⟨id, type, data, position⟩
  | _ => throw .nodeNotObject

end Node

end Flowgraph
