import Flowgraph.Agent.Chat

/-!
# Agents

An agent is asked with a text and replies after some time.  A directory holds agents by id, in
increasing order of their ids; a later agent takes the place of an earlier one of the same id.
-/

namespace Flowgraph

/-- **An agent**: who it is, how long it thinks and what it replies. -/
structure Agent where
  id : String
  name : String
  /-- Milliseconds before the reply to a text. -/
  delay : String → Nat
  reply : String → Except Fault String

namespace Agent

/-- The agent that says what it hears, under its name. -/
def echo (id : String) : Agent := ⟨id, id, fun _ => 0, fun text => .ok (id ++ ": " ++ text)⟩

/-- The agent whose every request fails. -/
def failing (id : String) : Agent :=
  ⟨id, id, fun _ => 0, fun _ => .error (.agentRequest (id ++ ": upstream unavailable"))⟩

/-- The agent that says what it hears after a while. -/
def slow (id : String) (delay : Nat) : Agent := ⟨id, id, fun _ => delay, .ok⟩

/-- The chat agent, with no server in reach. -/
def ofChat (c : Chat) : Agent :=
  ⟨c.profile.id, c.profile.name, fun _ => 0,
    fun text => (c.respond (fun _ => .unreachable) text).result⟩

end Agent

/-- **Agents by id.** -/
structure Directory where
  agents : List Agent

namespace Directory

/-- The directory without agents. -/
def empty : Directory := ⟨[]⟩

/-- Puts an agent in its place among others. -/
def place (a : Agent) : List Agent → List Agent
  | [] => [a]
  | b :: rest =>
    if a.id < b.id then a :: b :: rest
    else if a.id = b.id then a :: rest
    else b :: place a rest

/-- The directory with one more agent. -/
def register (d : Directory) (a : Agent) : Directory := ⟨place a d.agents⟩

/-- The directory of some agents, registered in turn. -/
def ofList (agents : List Agent) : Directory := agents.foldl register empty

/-- The agent of an id. -/
def get? (d : Directory) (id : String) : Option Agent := d.agents.find? (·.id == id)

/-- The ids of the agents, in order. -/
def ids (d : Directory) : List String := d.agents.map (·.id)

/-- The number of agents. -/
def size (d : Directory) : Nat := d.agents.length

/-- The text that shows a directory to a developer. -/
def display (d : Directory) : String :=
  "AgentDirectory \x7b agents: [" ++ ", ".intercalate (d.ids.map Text.quoted) ++ "] \x7d"

end Directory

end Flowgraph
