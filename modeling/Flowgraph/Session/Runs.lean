import Flowgraph.Flow.Operations
import Flowgraph.Session.Basic

/-!
# Runs in a session

A session whose background operations are runs of stored flows.
-/

namespace Flowgraph

/-- **A session with runs in the background.** -/
abbrev Runs := Session (Except Fault Executor.Finished)

namespace Runs

/-- **Starts a run** of a stored flow in the background. -/
def execute (x : Executor) (id : String) (ctx : Context) (cancelAt : Option Nat) (s : Runs) :
    Runs :=
  s.spawn (Flows.execute x id ctx).run cancelAt

/-- Does something with the stored flows in the foreground. -/
def perform {α : Type} (o : Attempt α) (s : Runs) : Except Fault α × Runs :=
  Session.runForeground none o.run s

end Runs

end Flowgraph
