import Flowgraph.Agent.Directory
import Flowgraph.Handler.Basic
import Flowgraph.Handler.Condition
import Flowgraph.Handler.Template
import Flowgraph.Time.Span

/-!
# Built-in handlers

What the built-in types of nodes do.  Each reads its settings from the data of the node, and fails
when they do not decode.
-/

namespace Flowgraph

/-- **Settings of the built-in handlers.** -/
structure Settings where
  /-- How long an agent may think, in seconds. -/
  agentTimeout : Nat
  /-- How long a delay takes that does not say, in seconds. -/
  defaultDelay : Extended .double

namespace Settings

/-- The delay when nothing else is said: one second. -/
def standardDelay : Extended .double := .finite (Binary.ofInt 1)

/-- The settings when nothing else is said. -/
def standard : Settings := ⟨60, standardDelay⟩

end Settings

namespace Handler

/-- Reads the one member of a node's data that a handler asks for. -/
def only {α : Type} (title name : String) (d : Decoder α) (absent : α) : Decoder α := fun t =>
  (Decoder.record title [.withDefault name d absent] t).map fun (v, ()) => v

/-- Reads the data of a node. -/
def dataOf {α : Type} (node : Node) (d : Decoder α) : Except Fault α :=
  (d.ofJson node.data).mapError fun e => .handlerFailure node.id (.badData node.type e)

/-! ### Handing on the payload -/

/-- Hands the payload on. -/
def passThrough : Handler := prompt fun _ ctx => .ok (.next ctx.input)

/-- The start of every run hands the payload on. -/
def trigger : Handler := passThrough

/-- The end of a run keeps the payload. -/
def «end» : Handler := prompt fun _ ctx => .ok (.last ctx.input)

/-! ### Messages and tags -/

/-- **Fills the template of the node** with the values of the variables. -/
def message : Handler := prompt fun node ctx => do
  let template ← dataOf node (only "MessageData" "message" Decoder.string "")
  return .next (Json.ofMembers [("message", .str (Template.render template ctx.bindings))])

/-- The payload with a label: in an object as a member, otherwise beside the payload. -/
def labelled (input : Json) (label : String) : Json :=
  match input with
  | .obj members => .obj (Json.insert "tag" (.str label) members)
  | .null => Json.ofMembers [("tag", .str label)]
  | other => Json.ofMembers [("input", other), ("tag", .str label)]

/-- **Labels the payload.** -/
def tag : Handler := prompt fun node ctx => do
  let label ← dataOf node (only "TagData" "tag" Decoder.string "")
  return .next (labelled ctx.input label)

/-! ### Conditions -/

/-- The members of the data of a condition. -/
def conditionFields : List Field :=
  [.withDefault "condition" Decoder.string "", .withDefault "value" Decoder.value .null]

/-- **Leaves by the port that says whether the condition holds.** -/
def condition : Handler := prompt fun node ctx => do
  let (name, value, ()) ← dataOf node (Decoder.record "ConditionData" conditionFields)
  let holds := (Condition.ofName name).holds ctx.input value
  return .through (if holds then Port.holds else Port.fails) ctx.input

/-! ### Waiting -/

/-- **Waits**, for as long as the node says or else for the given number of seconds.  Less than
nothing is nothing. -/
def delay (standard : Extended .double) : Handler := fun node ctx =>
  let span : Except Fault Span := do
    let given ← dataOf node
      (only "DelayData" "seconds" (Decoder.optional (Decoder.extended "f64")) none)
    let seconds := (given.getD standard).atLeastZero
    match Span.ofSeconds? seconds with
    | some span => return span
    | none => throw (.handlerFailure node.id (.badDelay seconds))
  match span with
  | .ok span => ⟨span.ticks, .ok (.next ctx.input), ctx⟩
  | .error e => ⟨0, .error e, ctx⟩

/-- What a node hands on that names no agent of the directory. -/
def agentMissing (id : String) : Outcome :=
  .through Port.response
    (Json.ofMembers [("error", .str "Agent not found"), ("agent_id", .str id)])

/-- What a node hands on when its agent has replied. -/
def agentReplied (node : Node) : Except Fault String → Except Fault Outcome
  | .ok text => .ok (.through Port.response (Json.ofMembers [("response", .str text)]))
  | .error e => .error (.handlerFailure node.id (.described e.message))

/-- **Asks an agent.**  An agent that takes longer than the given number of seconds fails the node;
of a reply and a timeout at the same moment the reply counts. -/
def agent (agents : Directory) (timeout : Nat) : Handler := fun node ctx =>
  match dataOf node (only "AgentData" "agent_id" Decoder.string "") with
  | .error e => ⟨0, .error e, ctx⟩
  | .ok id =>
    match agents.get? id with
    | none => ⟨0, .ok (agentMissing id), ctx⟩
    | some a =>
      -- the reply depends on the text alone, so only the time decides whether it counts
      let limit := (Span.seconds timeout).ticks
      let delay := a.delay ctx.text
      if delay ≤ limit then ⟨delay, agentReplied node (a.reply ctx.text), ctx⟩
      else ⟨limit, .error (.handlerTimeout node.id timeout), ctx⟩

/-! ### By type -/

/-- **The handler of a built-in type.** -/
def ofType (agents : Directory) (settings : Settings) : NodeType → Handler
  | .trigger => trigger
  | .message => message
  | .condition => condition
  | .agent => agent agents settings.agentTimeout
  | .delay => delay settings.defaultDelay
  | .tag => tag
  | .end => «end»

end Handler

end Flowgraph
