import Flowgraph.Graph.Node
import Flowgraph.Run.Context

/-!
# Handlers

A handler is what a type of nodes does.  It looks at the node and at what the run carries along,
and says how long it takes, what comes of it, and what it leaves of what the run carries: an output
and a port come of it, or a fault that ends the run.  While it waits the run may be cancelled;
`Reaction` is what happens when it is not.
-/

namespace Flowgraph

/-! ### Ports -/

/-- The port of nodes with one way out. -/
def Port.next : String := "next"

/-- The port of a condition that holds. -/
def Port.holds : String := "true"

/-- The port of a condition that does not hold. -/
def Port.fails : String := "false"

/-- The port of a reply. -/
def Port.response : String := "response"

/-! ### Handlers -/

/-- **What comes of a node.** -/
structure Outcome where
  /-- The payload for the next node; without one the payload stays as it is. -/
  output : Option Json
  /-- The port through which the run goes on; without one it ends. -/
  port : Option String
  deriving DecidableEq, Repr

namespace Outcome

/-- Goes on through a port. -/
def through (port : String) (output : Json) : Outcome := ⟨some output, some port⟩

/-- Goes on through the usual port. -/
def next (output : Json) : Outcome := through Port.next output

/-- Ends the run. -/
def last (output : Json) : Outcome := ⟨some output, none⟩

end Outcome

/-- **How a handler reacts**, unless the run is cancelled while it waits. -/
structure Reaction where
  /-- Milliseconds before anything comes of it. -/
  wait : Nat
  result : Except Fault Outcome
  /-- What the run carries along afterwards, before the output takes the place of the payload. -/
  context : Context

/-- **What a type of nodes does.** -/
abbrev Handler := Node → Context → Reaction

namespace Handler

/-- The handler that takes no time and leaves the context alone. -/
def prompt (react : Node → Context → Except Fault Outcome) : Handler := fun node ctx =>
  ⟨0, react node ctx, ctx⟩

/-- The handler that sets some variables, whatever the node, and then always gives one outcome. -/
def constant (set : List (String × Json)) (outcome : Outcome) : Handler := fun _ ctx =>
  ⟨0, .ok outcome, set.foldl (fun c v => c.set v.1 v.2) ctx⟩

/-- The handler that always fails. -/
def failing (fault : Fault) : Handler := prompt fun _ _ => .error fault

end Handler

end Flowgraph
