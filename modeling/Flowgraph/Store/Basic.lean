import Flowgraph.Store.Memory
import Flowgraph.Store.Rows

/-!
# Stores

A store is one of the two kinds.  Each call is one step: it has its answer and leaves a store, the
same one if it fails.
-/

namespace Flowgraph

/-- **A store of flows and records.** -/
inductive Store where
  | memory (s : MemoryStore)
  | rows (s : RowStore)
  deriving Repr

namespace Store

/-- An answer without a value, and the store afterwards. -/
def settle {σ : Type} (kind : σ → Store) (old : σ) :
    Except Fault σ → Except Fault Unit × Store
  | .ok s => (.ok (), kind s)
  | .error e => (.error e, kind old)

/-- An answer with a value, and the store afterwards. -/
def settleWith {σ α : Type} (kind : σ → Store) (old : σ) :
    Except Fault (α × σ) → Except Fault α × Store
  | .ok (a, s) => (.ok a, kind s)
  | .error e => (.error e, kind old)

/-- Stores a new flow. -/
def insert (f : Flow) : Store → Except Fault Unit × Store
  | memory s => settle memory s (s.insert f)
  | rows s => settle rows s (s.insert f)

/-- Loads a flow. -/
def get (id : String) : Store → Except Fault (Option Flow)
  | memory s => .ok (s.get? id)
  | rows s => s.get id

/-- Loads every flow, oldest first. -/
def list : Store → Except Fault (List Flow)
  | memory s => .ok s.flows
  | rows s => s.list

/-- Replaces the definition of a flow, and tells whether it is there. -/
def update (f : Flow) : Store → Except Fault Bool × Store
  | memory s => (.ok (s.has f.id), memory (s.update f))
  | rows s => settleWith rows s (s.update f)

/-- Replaces the life of a flow, if it is there. -/
def setLife (id : String) (status : Status) (lastRun : Option Instant) :
    Store → Except Fault Unit × Store
  | memory s => (.ok (), memory (s.setLife id status lastRun))
  | rows s => settle rows s (s.setLife id status lastRun)

/-- Removes a flow, and tells whether it was there. -/
def delete (id : String) : Store → Except Fault Bool × Store
  | memory s => (.ok (s.has id), memory (s.delete id))
  | rows s => settleWith rows s (s.delete id)

/-- Adds a record to the log. -/
def append (r : Record) : Store → Except Fault Unit × Store
  | memory s => (.ok (), memory (s.append r))
  | rows s => settle rows s (s.append r)

/-- Loads the records of one flow or of all, in order. -/
def recordsOf (flow : Option String) : Store → Except Fault (List Record)
  | memory s => .ok (s.recordsOf flow)
  | rows s => s.recordsOf flow

end Store

end Flowgraph
