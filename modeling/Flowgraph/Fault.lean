import Flowgraph.Json.DecodeError

/-!
# What can go wrong

Every operation fails for one of the causes below.  `Fault.message` is the text of a cause and
`Fault.kind` the stable name of its kind; nothing else in the library decides on the wording.
-/

namespace Flowgraph

/-- **Why a graph is refused.** -/
inductive GraphFault where
  /-- The specification of a node is not an object. -/
  | nodeNotObject
  /-- The specification of an edge is not an object. -/
  | edgeNotObject
  /-- A node lacks a field; its id is given once it is known. -/
  | nodeLacks (id : Option String) (field : String)
  /-- An edge lacks a field; its id is given once it is known. -/
  | edgeLacks (id : Option String) (field : String)
  /-- The position of a node does not decode. -/
  | badPosition (id : String) (cause : DecodeError)
  /-- The id of a node is blank. -/
  | blankNodeId
  /-- Two nodes have one id. -/
  | duplicateNode (id : String)
  /-- Two edges have one id. -/
  | duplicateEdge (id : String)
  /-- An end of an edge is no node of the graph. -/
  | unknownEndpoint (edge node : String)
  /-- A cause in words. -/
  | described (text : String)
  deriving DecidableEq, Repr

/-- What is said to lack a field. -/
def GraphFault.owner (what : String) : Option String → String
  | some id => what ++ " '" ++ id ++ "'"
  | none => what

/-- The text of a cause. -/
def GraphFault.message : GraphFault → String
  | .nodeNotObject => "node specification must be an object"
  | .edgeNotObject => "edge specification must be an object"
  | .nodeLacks id field => owner "node" id ++ " is missing required field '" ++ field ++ "'"
  | .edgeLacks id field => owner "edge" id ++ " is missing required field '" ++ field ++ "'"
  | .badPosition id cause => "node '" ++ id ++ "' has an invalid position: " ++ cause.message
  | .blankNodeId => "node with an empty id"
  | .duplicateNode id => "duplicate node id '" ++ id ++ "'"
  | .duplicateEdge id => "duplicate edge id '" ++ id ++ "'"
  | .unknownEndpoint edge node => "edge '" ++ edge ++ "' references unknown node '" ++ node ++ "'"
  | .described text => text

/-- **Why the handler of a node fails.** -/
inductive HandlerFault where
  /-- The data of a node of this type does not decode. -/
  | badData (type : String) (cause : DecodeError)
  /-- There is no span of so many seconds. -/
  | badDelay (seconds : Extended .double)
  /-- The walk cannot go on, since the edge leads to no node. -/
  | missingTarget (node : String)
  /-- A cause in words. -/
  | described (text : String)
  deriving DecidableEq, Repr

/-- The text of a cause. -/
def HandlerFault.message : HandlerFault → String
  | .badData type cause => "invalid " ++ type ++ " node data: " ++ cause.message
  | .badDelay seconds =>
    "invalid delay " ++ Layout.plain.writeExtended seconds
      ++ ": cannot convert float seconds to Duration: value is either too big or NaN"
  | .missingTarget node => "edge target '" ++ node ++ "' not found"
  | .described text => text

/-- **Why a store refuses a call.** -/
inductive StoreFault where
  /-- A flow with this id is already there. -/
  | flowExists (id : String)
  /-- A row with this value in a column without repetitions is already there. -/
  | notUnique (column : String)
  /-- There is no table of this name. -/
  | noTable (name : String)
  /-- A stored status is none of the four. -/
  | unknownStatus (text : String)
  /-- A stored text is no instant. -/
  | badInstant (text : String)
  /-- The store may only be read. -/
  | readOnly
  /-- A cause in words. -/
  | described (text : String)
  deriving DecidableEq, Repr

/-- The text of a cause. -/
def StoreFault.message : StoreFault → String
  | .flowExists id => "flow '" ++ id ++ "' already exists"
  | .notUnique column => "UNIQUE constraint failed: " ++ column
  | .noTable name => "no such table: " ++ name
  | .unknownStatus text => "unknown flow status '" ++ text ++ "'"
  | .badInstant text => "invalid timestamp '" ++ text ++ "'"
  | .readOnly => "attempt to write a readonly database"
  | .described text => text

/-- **Why data is refused.** -/
inductive DataFault where
  | decode (cause : DecodeError)
  /-- A cause in words. -/
  | described (text : String)
  deriving DecidableEq, Repr

/-- The text of a cause. -/
def DataFault.message : DataFault → String
  | .decode cause => cause.message
  | .described text => text

/-- **Why an operation fails.** -/
inductive Fault where
  | malformedGraph (cause : GraphFault)
  | flowNotFound (id : String)
  | noTrigger (flow : String)
  | handlerFailure (node : String) (cause : HandlerFault)
  | handlerTimeout (node : String) (seconds : Nat)
  | maxSteps (limit : Nat)
  | cancelled
  | agentRequest (text : String)
  | config (text : String)
  | configNotFound (path : String)
  | database (cause : StoreFault)
  | io (text : String)
  | json (cause : DataFault)
  deriving DecidableEq, Repr

namespace Fault

/-- The text of a cause. -/
def message : Fault → String
  | .malformedGraph cause => "Malformed flow graph: " ++ cause.message
  | .flowNotFound id => "Flow not found: " ++ id
  | .noTrigger flow => "No trigger node found in flow " ++ flow
  | .handlerFailure node cause => "Node handler failed: " ++ node ++ ": " ++ cause.message
  | .handlerTimeout node seconds =>
    "Node handler timeout after " ++ toString seconds ++ "s: " ++ node
  | .maxSteps limit => "Flow exceeded max steps (" ++ toString limit ++ ")"
  | .cancelled => "Run cancelled"
  | .agentRequest text => "Agent request failed: " ++ text
  | .config text => "Config error: " ++ text
  | .configNotFound path => "Config file not found: " ++ path
  | .database cause => "Database error: " ++ cause.message
  | .io text => "I/O error: " ++ text
  | .json cause => "JSON error: " ++ cause.message

/-- The stable name of the kind of a cause.  A handler that takes too long has failed. -/
def kind : Fault → String
  | .malformedGraph _ => "malformed_graph"
  | .flowNotFound _ => "flow_not_found"
  | .noTrigger _ => "no_trigger"
  | .handlerFailure _ _ | .handlerTimeout _ _ => "handler_failure"
  | .maxSteps _ => "max_steps_exceeded"
  | .cancelled => "cancelled"
  | .agentRequest _ => "agent_request"
  | .config _ | .configNotFound _ => "config"
  | .database _ => "database"
  | .io _ => "io"
  | .json _ => "json"

/-- The cause lies in the definition of a flow, before any run of it. -/
def isDefinition : Fault → Bool
  | .malformedGraph _ | .json _ => true
  | _ => false

/-- Data that does not decode. -/
def ofDecode (e : DecodeError) : Fault := .json (.decode e)

end Fault

end Flowgraph
