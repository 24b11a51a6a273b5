import Flowgraph.Flow.Draft
import Flowgraph.Run.Executor

/-!
# Operations on stored flows

What can be done with the flows of a store: create, import, load, list, update, delete and execute.
Each is an operation that may fail; between two of its requests other operations may have their
turn.
-/

namespace Flowgraph

/-- An operation that may fail. -/
abbrev Attempt := ExceptT Fault Operation

namespace Flows

/-- The operation of a request that may fail. -/
def attempt {α : Type} (q : Operation (Except Fault α)) : Attempt α := ExceptT.mk q

/-- Loads a flow. -/
def get (id : String) : Attempt Flow := do
  match ← attempt (.request (.get id)) with
  | some flow => return flow
  | none => throw (.flowNotFound id)

/-- Loads every flow, oldest first. -/
def list : Attempt (List Flow) := attempt (.request .list)

/-- **Stores a new flow** made from a draft, under an id of its own. -/
def create (draft : Draft) : Attempt Flow := do
  let id ← ExceptT.lift (.request .freshFlowId)
  let graph ← draft.graph
  let createdAt ← ExceptT.lift (.request .clock)
  let flow := Flow.fresh id draft.name draft.description graph createdAt
  attempt (.request (.insert flow))
  return flow

/-- **Stores a flow that comes from elsewhere**, under the id that it has, as one that has never
been run. -/
def importFlow (flow : Flow) : Attempt Flow := do
  flow.validate
  let flow := flow.neverRun
  attempt (.request (.insert flow))
  return flow

/-- **Changes the definition of a flow.** -/
def update (id : String) (u : Update) : Attempt Flow := do
  let flow ← get id
  let flow ← u.apply flow
  -- the flow may have been removed in the meantime, and its life may have changed
  if ← attempt (.request (.update flow)) then get id
  else throw (.flowNotFound id)

/-- **Removes a flow.** -/
def delete (id : String) : Attempt Unit := do
  if ← attempt (.request (.delete id)) then return ()
  else throw (.flowNotFound id)

/-- **Loads a flow, runs it and stores its new life.**  That the new life cannot be stored at the
end does not fail the operation. -/
def execute (x : Executor) (id : String) (ctx : Context) : Attempt Executor.Finished := do
  let flow ← get id
  if flow.trigger?.isSome then
    attempt (.request (.setLife id .running flow.lastRun))
  let finished ← ExceptT.lift (x.run flow ctx)
  -- a flow without a trigger that has never been run has no life to store
  if finished.flow.lastRun.isSome then
    let _ ← ExceptT.lift
      (.request (.setLife id finished.flow.status finished.flow.lastRun))
  return finished

/-- Loads the records of the log, of one flow or of all. -/
def executions (flow : Option String) : Attempt (List Record) := attempt (.request (.records flow))

end Flows

end Flowgraph
