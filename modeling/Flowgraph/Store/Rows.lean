import Flowgraph.Flow.Basic
import Flowgraph.Json.Writer
import Flowgraph.Run.Record

/-!
# The store in rows

Flows and records as rows of text: graphs and records in their compact text form, instants with
their offset in digits.  A row is read back when it is loaded, and then its text may turn out to be
no flow or no record.  Either table may be missing.

The rows of a table stand in the order of their numbers.  A new row gets a number above those of all
rows that there are, be it one that a deleted row has had, so it stands at the end.
-/

namespace Flowgraph

/-- **A row of the table of flows.** -/
structure FlowRow where
  id : String
  name : String
  description : String
  nodes : String
  edges : String
  status : String
  createdAt : String
  lastRun : Option String
  deriving DecidableEq, Repr

namespace FlowRow

/-- The text of a list of values. -/
def listText (items : List Json) : String := (Json.arr items).compact

/-- The row of a flow. -/
def ofFlow (f : Flow) : FlowRow :=
  ⟨f.id, f.name, f.description, listText (f.graph.nodes.map Node.toJson),
    listText (f.graph.edges.map Edge.toJson), f.status.text, f.createdAt.rowText,
    f.lastRun.map Instant.rowText⟩

/-- Reads the text of a list. -/
def readList {α : Type} (d : Decoder α) (text : String) : Except Fault (List α) :=
  ((Decoder.list d).ofText text).mapError .ofDecode

/-- Reads the text of an instant. -/
def readInstant (text : String) : Except Fault Instant :=
  match Instant.read? text with
  | some t => .ok t
  | none => .error (.database (.badInstant text))

/-- **Reads a flow from its row**: nodes, edges and the graph they form before status and
instants. -/
def toFlow (r : FlowRow) : Except Fault Flow := do
  let nodes ← readList Node.decoder r.nodes
  let edges ← readList Edge.decoder r.edges
  let graph ← (Graph.validated ⟨nodes, edges⟩).mapError Fault.malformedGraph
  let status ← (Status.ofStored r.status).mapError Fault.database
  let createdAt ← readInstant r.createdAt
  let lastRun ← r.lastRun.mapM readInstant
  return ⟨r.id, r.name, r.description, graph, status, createdAt, lastRun⟩

/-- The row with the definition of another. -/
def withDefinition (r new : FlowRow) : FlowRow :=
  { r with
    name := new.name
    description := new.description
    nodes := new.nodes
    edges := new.edges }

/-- The row with another life. -/
def withLife (r : FlowRow) (status : Status) (lastRun : Option Instant) : FlowRow :=
  { r with status := status.text, lastRun := lastRun.map Instant.rowText }

end FlowRow

/-- **A row of the table of runs.** -/
structure RunRow where
  runId : String
  flowId : String
  startedAt : String
  success : String
  record : String
  deriving DecidableEq, Repr

namespace RunRow

/-- The row of a record. -/
def ofRecord (r : Record) : RunRow :=
  ⟨r.runId, r.flowId, r.startedAt.rowText, if r.success then "1" else "0", r.toJson.compact⟩

/-- Reads a record from its row. -/
def toRecord (r : RunRow) : Except Fault Record :=
  (Record.decoder.ofText r.record).mapError .ofDecode

end RunRow

/-- **Flows and records in rows.** -/
structure RowStore where
  flows : Option (List FlowRow)
  runs : Option (List RunRow)
  deriving Repr

namespace RowStore

/-- The store with both tables and no rows. -/
def empty : RowStore := ⟨some [], some []⟩

/-- The store opened again: a missing table is there again, without rows. -/
def reopened (s : RowStore) : RowStore := ⟨some (s.flows.getD []), some (s.runs.getD [])⟩

/-- The name of the table of flows. -/
def flowTable : String := "flows"

/-- The name of the table of runs. -/
def runTable : String := "executions"

/-- The rows of the table of flows. -/
def flowRows (s : RowStore) : Except Fault (List FlowRow) :=
  match s.flows with
  | some rows => .ok rows
  | none => .error (.database (.noTable flowTable))

/-- The rows of the table of runs. -/
def runRows (s : RowStore) : Except Fault (List RunRow) :=
  match s.runs with
  | some rows => .ok rows
  | none => .error (.database (.noTable runTable))

/-- **Adds a flow** behind the others. -/
def insert (s : RowStore) (f : Flow) : Except Fault RowStore := do
  let rows ← s.flowRows
  if rows.any (·.id == f.id) then throw (.database (.notUnique (flowTable ++ ".id")))
  return { s with flows := some (rows ++ [.ofFlow f]) }

/-- Loads the flow of an id. -/
def get (s : RowStore) (id : String) : Except Fault (Option Flow) := do
  let rows ← s.flowRows
  (rows.find? (·.id == id)).mapM FlowRow.toFlow

/-- Loads every flow; the first row that is no flow fails it. -/
def list (s : RowStore) : Except Fault (List Flow) := do
  let rows ← s.flowRows
  rows.mapM FlowRow.toFlow

/-- Changes the rows of an id, and tells whether there is one. -/
def modify (s : RowStore) (id : String) (change : FlowRow → FlowRow) :
    Except Fault (Bool × RowStore) := do
  let rows ← s.flowRows
  let changed := rows.map fun r => if r.id == id then change r else r
  return (rows.any (·.id == id), { s with flows := some changed })

/-- **Replaces the definition of a flow**; all else stays. -/
def update (s : RowStore) (f : Flow) : Except Fault (Bool × RowStore) :=
  s.modify f.id fun r => r.withDefinition (.ofFlow f)

/-- **Replaces the life of a flow.** -/
def setLife (s : RowStore) (id : String) (status : Status) (lastRun : Option Instant) :
    Except Fault RowStore :=
  (s.modify id fun r => r.withLife status lastRun).map (·.2)

/-- **Removes a flow**, and tells whether there was one.  Its records stay. -/
def delete (s : RowStore) (id : String) : Except Fault (Bool × RowStore) := do
  let rows ← s.flowRows
  return (rows.any (·.id == id), { s with flows := some (rows.filter fun r => r.id != id) })

/-- **Adds a record** behind the others; no two records have one run. -/
def append (s : RowStore) (r : Record) : Except Fault RowStore := do
  let rows ← s.runRows
  if rows.any (·.runId == r.runId) then throw (.database (.notUnique (runTable ++ ".run_id")))
  return { s with runs := some (rows ++ [.ofRecord r]) }

/-- Loads the records of one flow or of all, in order. -/
def recordsOf (s : RowStore) (flow : Option String) : Except Fault (List Record) := do
  let rows ← s.runRows
  (rows.filter fun r => flow.all (r.flowId == ·)).mapM RunRow.toRecord

/-! ### Changing rows from outside -/

/-- The store without a table. -/
def dropTable (s : RowStore) (table : String) : Except Fault RowStore := do
  if table == flowTable then
    let _ ← s.flowRows
    return { s with flows := none }
  else if table == runTable then
    let _ ← s.runRows
    return { s with runs := none }
  else throw (.database (.noTable table))

/-- The row of a flow with one column set, if there is such a column and it may hold the value. -/
def FlowRow.setColumn? (column : String) (value : Option String) (r : FlowRow) : Option FlowRow :=
  match column, value with
  | "last_run", v => some { r with lastRun := v }
  | "name", some v => some { r with name := v }
  | "description", some v => some { r with description := v }
  | "nodes_json", some v => some { r with nodes := v }
  | "edges_json", some v => some { r with edges := v }
  | "status", some v => some { r with status := v }
  | "created_at", some v => some { r with createdAt := v }
  | "id", some v => some { r with id := v }
  | _, _ => none

/-- The row of a run with one column set, if there is such a column and it may hold the value. -/
def RunRow.setColumn? (column : String) (value : Option String) (r : RunRow) : Option RunRow :=
  match column, value with
  | "run_id", some v => some { r with runId := v }
  | "flow_id", some v => some { r with flowId := v }
  | "started_at", some v => some { r with startedAt := v }
  | "success", some v => some { r with success := v }
  | "record_json", some v => some { r with record := v }
  | _, _ => none

/-- Sets one column of the rows that a test picks; the number of these rows, and all rows. -/
def setWhere {ρ : Type} (rows : List ρ) (picked : ρ → Bool) (set : ρ → Option ρ) (column : String) :
    Except Fault (Nat × List ρ) := do
  -- all or nothing: the first row that may not hold the value fails the change
  let changed ← rows.mapM fun r =>
    if picked r then
      match set r with
      | some r => pure r
      | none => throw (Fault.database (.described ("NOT NULL constraint failed: " ++ column)))
    else pure r
  return ((rows.filter picked).length, changed)

/-- Fails if a column has one value twice. -/
def checkDistinct (column : String) : List String → Except Fault Unit
  | [] => .ok ()
  | v :: rest =>
    if rest.contains v then .error (.database (.notUnique column)) else checkDistinct column rest

/-- **Sets one column** in the rows of a flow, whatever the value, and tells how many rows there
are. -/
def setColumn (s : RowStore) (table column flow : String) (value : Option String) :
    Except Fault (Nat × RowStore) := do
  if table == flowTable then
    let (n, rows) ← setWhere (← s.flowRows) (·.id == flow) (FlowRow.setColumn? column value)
      (table ++ "." ++ column)
    checkDistinct (flowTable ++ ".id") (rows.map (·.id))
    return (n, { s with flows := some rows })
  else if table == runTable then
    let (n, rows) ← setWhere (← s.runRows) (·.flowId == flow) (RunRow.setColumn? column value)
      (table ++ "." ++ column)
    checkDistinct (runTable ++ ".run_id") (rows.map (·.runId))
    return (n, { s with runs := some rows })
  else throw (.database (.noTable table))

end RowStore

end Flowgraph
