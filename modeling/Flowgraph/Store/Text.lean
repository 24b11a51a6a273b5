import Flowgraph.Json.Decode
import Flowgraph.Store.Rows

/-!
# Stores as text

The text in which a store of rows is kept in a file: an object with a list of rows for each table
that there is, and each row a list of its columns.
-/

namespace Flowgraph

namespace FlowRow

/-- The columns of a row. -/
def toJson (r : FlowRow) : Json :=
  .arr ([r.id, r.name, r.description, r.nodes, r.edges, r.status, r.createdAt].map .str
    ++ [.ofOption (r.lastRun.map .str)])

/-- Reads a row from its columns. -/
def ofJson? : Json → Option FlowRow
  | .arr [.str id, .str name, .str description, .str nodes, .str edges, .str status,
      .str createdAt, lastRun] =>
    match lastRun with
    | .null => some ⟨id, name, description, nodes, edges, status, createdAt, none⟩
    | .str t => some ⟨id, name, description, nodes, edges, status, createdAt, some t⟩
    | _ => none
  | _ => none

end FlowRow

namespace RunRow

/-- The columns of a row. -/
def toJson (r : RunRow) : Json :=
  .arr ([r.runId, r.flowId, r.startedAt, r.success, r.record].map .str)

/-- Reads a row from its columns. -/
def ofJson? : Json → Option RunRow
  | .arr [.str runId, .str flowId, .str startedAt, .str success, .str record] =>
    some ⟨runId, flowId, startedAt, success, record⟩
  | _ => none

end RunRow

namespace RowStore

/-- A table as data. -/
def tableJson {ρ : Type} (f : ρ → Json) (rows : Option (List ρ)) : Json :=
  .ofOption (rows.map fun rows => .arr (rows.map f))

/-- Reads a table. -/
def tableOf? {ρ : Type} (f : Json → Option ρ) : Json → Option (Option (List ρ))
  | .null => some none
  | .arr rows => (rows.mapM f).map some
  | _ => none

/-- **The text of a store.** -/
def text (s : RowStore) : String :=
  (Json.ofMembers [(flowTable, tableJson FlowRow.toJson s.flows),
    (runTable, tableJson RunRow.toJson s.runs)]).compact

/-- **Reads the text of a store.** -/
def ofText? (text : String) : Option RowStore := do
  let j ← Json.ofText? text
  let flows ← tableOf? FlowRow.ofJson? (← j.member? flowTable)
  let runs ← tableOf? RunRow.ofJson? (← j.member? runTable)
  return ⟨flows, runs⟩

end RowStore

end Flowgraph
