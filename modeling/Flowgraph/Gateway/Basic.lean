import Flowgraph.Agent.Directory
import Flowgraph.Gateway.Address
import Flowgraph.Gateway.MediaType
import Flowgraph.Handler.Catalog
import Flowgraph.Session.Runs
import Flowgraph.Version

/-!
# The gateway

The gateway answers requests for what is done with flows.  A request is first routed by its path and
its method, then its parts are decoded, and only then is anything done; a request that is refused
before that changes nothing.

A run that is asked for goes on in the background, so that it ends and is recorded even when nobody
waits for it any longer.
-/

namespace Flowgraph

namespace Gateway

/-! ### Requests and responses -/

/-- **A request.** -/
structure Request where
  method : String
  address : String
  contentType : Option String
  body : String
  deriving Repr

/-- What a response holds. -/
inductive Content where
  | none
  | data (j : Json)
  /-- A text for people, which says why the request is refused. -/
  | text (s : String)
  deriving Repr

/-- **A response.** -/
structure Response where
  status : Nat
  /-- The methods that the path has, where the method is not one of them. -/
  allow : Option String
  content : Content
  deriving Repr

namespace Response

/-- A response with data. -/
def data (status : Nat) (j : Json) : Response := ⟨status, none, .data j⟩

/-- A response that refuses a request before anything is done. -/
def refusal (status : Nat) (reason : String) : Response := ⟨status, none, .text reason⟩

/-- A response with nothing in it. -/
def blank (status : Nat) (allow : Option String) : Response := ⟨status, allow, .none⟩

/-- The response without its content. -/
def withoutContent (r : Response) : Response := { r with content := .none }

end Response

/-- The status for a fault. -/
def statusOf : Fault → Nat
  | .malformedGraph _ | .json _ => 400
  | .flowNotFound _ => 404
  | _ => 500

/-- The response for a fault. -/
def ofFault (f : Fault) : Response :=
  .data (statusOf f) (Json.ofMembers [("error", .str f.kind), ("detail", .str f.message)])

/-- The response for the outcome of an operation. -/
def ofResult {α : Type} (status : Nat) (toJson : α → Json) : Except Fault α → Response
  | .ok a => .data status (toJson a)
  | .error f => ofFault f

/-! ### Routes -/

/-- **What a path leads to.**  The id of a flow is still as it stands in the path. -/
inductive Route where
  | health
  | nodeTypes
  | agents
  | flows
  | flow (id : String)
  | execute (id : String)
  | executions
  deriving DecidableEq, Repr

namespace Route

/-- The route of a path. -/
def ofPath? (path : String) : Option Route :=
  match path.splitOn "/" with
  | ["", "api", "health"] => some health
  | ["", "api", "node-types"] => some nodeTypes
  | ["", "api", "agents"] => some agents
  | ["", "api", "flows"] => some flows
  | ["", "api", "flows", id] => if id.isEmpty then none else some (flow id)
  | ["", "api", "flows", id, "execute"] => if id.isEmpty then none else some (execute id)
  | ["", "api", "executions"] => some executions
  | _ => none

/-- The methods that a route has, in the order in which they are listed. -/
def methods : Route → List String
  | health | nodeTypes | agents | executions => ["GET", "HEAD"]
  | flows => ["GET", "HEAD", "POST"]
  | flow _ => ["GET", "HEAD", "PUT", "DELETE"]
  | execute _ => ["POST"]

/-- The list of the methods, as it stands in a response. -/
def allow (r : Route) : String := ",".intercalate r.methods

end Route

/-! ### The parts of a request -/

/-- The id of a flow in a path, with its escapes undone. -/
def idOf (part : String) : Except Response String :=
  match Address.decode? part with
  | some id => .ok id
  | none => .error (.refusal 400 "Invalid UTF-8 in path")

/-- How many bytes a body may have: two mebibytes. -/
def bodyLimit : Nat := 2097152

/-- Decodes the body of a request. -/
def bodyOf {α : Type} (d : Decoder α) (r : Request) : Except Response α :=
  if !(r.contentType.map MediaType.isData).getD false then
    .error (.refusal 415 "Expected request with Content-Type: application/json")
  else if bodyLimit < r.body.utf8ByteSize then
    .error (.refusal 413 "Failed to buffer the request body: length limit exceeded")
  else
    match d.ofText r.body with
    | .ok a => .ok a
    | .error .malformed => .error (.refusal 400 "Failed to parse the request body as JSON")
    | .error e => .error (.refusal 422 ("Failed to deserialize the JSON body: " ++ e.message))

/-- The members of the body that asks for a run. -/
def runFields : List Field :=
  [.withDefault "input" Decoder.value .null, .withDefault "variables" Decoder.table []]

/-- Reads the body that asks for a run. -/
def runDecoder : Decoder Context := fun t =>
  (Decoder.record "ExecuteBody" runFields t).map fun (input, bindings, ()) =>
    ⟨input, bindings⟩

/-- What a run is to carry along: nothing, if the request does not announce any content. -/
def contextOf (r : Request) : Except Response Context :=
  if r.contentType.isSome then bodyOf runDecoder r else .ok ⟨.null, []⟩

/-- The flow that a query asks for, if it asks for one. -/
def flowFilter (r : Request) : Except Response (Option String) :=
  match (Address.pairs (Address.query r.address)).filter fun p => p.1 == "flow_id" with
  | [] => .ok none
  | [(_, id)] => .ok (some id)
  | _ => .error (.refusal 400 "Failed to deserialize query string: duplicate field")

end Gateway

/-! ### Answering -/

/-- **What answers requests.** -/
structure Gateway where
  executor : Executor
  agents : Directory

namespace Gateway

/-- The data of the agents. -/
def agentsJson (d : Directory) : Json :=
  Json.ofMembers [("agents", .arr (d.agents.map fun a =>
    Json.ofMembers [("id", .str a.id), ("name", .str a.name)]))]

/-- Does something with the stored flows, at once. -/
def perform {α : Type} (status : Nat) (toJson : α → Json) (o : Attempt α) (s : Runs) :
    Option Response × Runs :=
  let (result, s) := Runs.perform o s
  (some (ofResult status toJson result), s)

/-- Goes on with a part of a request, unless the request is refused. -/
def given {α : Type} (part : Except Response α) (s : Runs) (go : α → Option Response × Runs) :
    Option Response × Runs :=
  match part with
  | .ok a => go a
  | .error refusal => (some refusal, s)

/-- **Answers a request** whose route has its method.  A run is waited for up to the limit; beyond
it there is no response. -/
def respond (g : Gateway) (limit : Option Nat) (r : Request) (s : Runs) :
    Route → Option Response × Runs
  | .health =>
    (some (.data 200 (Json.ofMembers [("status", .str "ok"), ("version", .str version)])), s)
  | .nodeTypes => (some (.data 200 (.arr (Catalog.entries.map Catalog.Entry.toJson))), s)
  | .agents => (some (.data 200 (agentsJson g.agents)), s)
  | .flows =>
    if r.method == "POST" then
      given (bodyOf Draft.decoder r) s fun draft =>
        perform 201 Flow.toJson (Flows.create draft) s
    else perform 200 (fun fs => .arr (fs.map Flow.toJson)) Flows.list s
  | .flow part =>
    given (idOf part) s fun id =>
      if r.method == "PUT" then
        given (bodyOf Update.decoder r) s fun u =>
          perform 200 Flow.toJson (Flows.update id u) s
      else if r.method == "DELETE" then
        perform 200 (fun _ => Json.ofMembers [("status", .str "deleted")]) (Flows.delete id) s
      else perform 200 Flow.toJson (Flows.get id) s
  | .execute part =>
    given (idOf part) s fun id =>
      given (contextOf r) s fun ctx =>
        let i := s.jobs.length
        let (result, s) := (Runs.execute g.executor id ctx none s).join limit i
        (result.map (ofResult 200 fun f => f.record.toJson), s)
  | .executions =>
    given (flowFilter r) s fun flow =>
      perform 200 (fun rs => .arr (rs.map Record.toJson)) (Flows.executions flow) s

/-- **Answers any request.**  A path that leads nowhere is not found, a method that a route does not
have is refused, and a request for the methods themselves is granted. -/
def handle (g : Gateway) (limit : Option Nat) (r : Request) (s : Runs) : Option Response × Runs :=
  match Route.ofPath? (Address.path r.address) with
  | none => (some (.blank (if r.method == "OPTIONS" then 200 else 404) none), s)
  | some route =>
    if r.method == "OPTIONS" then (some (.blank 200 (some route.allow)), s)
    else if route.methods.contains r.method then
      let (response, s) := g.respond limit r s route
      (if r.method == "HEAD" then response.map Response.withoutContent else response, s)
    else (some (.blank 405 (some route.allow)), s)

end Gateway

end Flowgraph
