import Flowgraph.Flow.Basic
import Flowgraph.Run.Record

/-!
# The store in memory

Flows and records as they are, each list in the order of insertion.  No id occurs twice among the
flows.
-/

namespace Flowgraph

/-- **Flows and records in memory.** -/
structure MemoryStore where
  flows : List Flow
  records : List Record
  deriving Repr

namespace MemoryStore

/-- The store without anything in it. -/
def empty : MemoryStore := ⟨[], []⟩

/-- The flow of an id. -/
def get? (s : MemoryStore) (id : String) : Option Flow := s.flows.find? (·.id == id)

/-- A flow of this id is stored. -/
def has (s : MemoryStore) (id : String) : Bool := s.flows.any (·.id == id)

/-- **Adds a flow** behind the others. -/
def insert (s : MemoryStore) (f : Flow) : Except Fault MemoryStore :=
  if s.has f.id then .error (.database (.flowExists f.id))
  else .ok { s with flows := s.flows ++ [f] }

/-- Changes the first of the flows of an id. -/
def modify (id : String) (change : Flow → Flow) : List Flow → List Flow
  | [] => []
  | f :: rest => if f.id = id then change f :: rest else f :: modify id change rest

/-- **Replaces the definition of a flow**, and the instant of its creation with it; the status and
the last run stay. -/
def update (s : MemoryStore) (f : Flow) : MemoryStore :=
  { s with flows := modify f.id (fun old => f.withLife old.status old.lastRun) s.flows }

/-- **Replaces the life of a flow.** -/
def setLife (s : MemoryStore) (id : String) (status : Status) (lastRun : Option Instant) :
    MemoryStore :=
  { s with flows := modify id (fun old => old.withLife status lastRun) s.flows }

/-- **Removes a flow.**  Its records stay. -/
def delete (s : MemoryStore) (id : String) : MemoryStore :=
  { s with flows := s.flows.filter fun f => f.id != id }

/-- **Adds a record** behind the others. -/
def append (s : MemoryStore) (r : Record) : MemoryStore := { s with records := s.records ++ [r] }

/-- The records of one flow or of all, in order. -/
def recordsOf (s : MemoryStore) : Option String → List Record
  | none => s.records
  | some flow => s.records.filter fun r => r.flowId == flow

end MemoryStore

end Flowgraph
