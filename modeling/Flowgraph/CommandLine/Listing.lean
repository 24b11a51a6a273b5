import Flowgraph.Flow.Basic
import Flowgraph.Handler.Catalog
import Flowgraph.Run.Record
import Flowgraph.Time.Rfc3339

/-!
# Listings

The lines in which flows, records and types of nodes are shown to people, in columns of a least
width.
-/

namespace Flowgraph.CommandLine.Listing

/-- Blanks. -/
def blanks (n : Nat) : String := String.ofList (List.replicate n ' ')

/-- A text at the left of a column. -/
def left (width : Nat) (s : String) : String := s ++ blanks (width - s.length)

/-- A text at the right of a column. -/
def right (width : Nat) (s : String) : String := blanks (width - s.length) ++ s

/-! ### Flows -/

/-- The line of a stored flow. -/
def flowLine (f : Flow) : String :=
  left 32 f.id ++ " " ++ left 10 f.status.text ++ " " ++ right 3 (toString f.graph.nodes.length)
    ++ " nodes  last run: " ++ left 19 ((f.lastRun.map Instant.displayText).getD "never") ++ "  "
    ++ f.name

/-- **The lines of the stored flows.** -/
def flows (fs : List Flow) : List String :=
  if fs.isEmpty then ["No flows stored."] else fs.map flowLine

/-! ### Records -/

/-- How a run ended, in a word. -/
def outcome (r : Record) : String :=
  match r.error with
  | some e => e.kind
  | none => if r.success then "ok" else "failed"

/-- **The line of a record.** -/
def recordLine (r : Record) : String :=
  r.startedAt.displayText ++ "  " ++ r.runId ++ "  " ++ left 24 r.flowId ++ " "
    ++ right 3 (toString r.steps.length) ++ " steps  " ++ right 6 (toString (r.elapsed?.getD 0))
    ++ "ms  " ++ outcome r

/-! ### Types of nodes -/

/-- One line of the table of types. -/
def typeLine (type label color icon outputs : String) : String :=
  left 10 type ++ " " ++ left 14 label ++ " " ++ left 8 color ++ " " ++ left 14 icon ++ " "
    ++ outputs

/-- **The table of the built-in types.** -/
def nodeTypes : List String :=
  typeLine "TYPE" "LABEL" "COLOR" "ICON" "OUTPUTS" :: Catalog.entries.map fun e =>
    typeLine e.type.name e.label e.color e.icon (", ".intercalate e.outputs)

/-! ### A flow that is checked -/

/-- What is noted about a node: its type is not built in. -/
def note? (n : Node) : Option String :=
  if (Catalog.lookup n.type).isSome then none
  else
    some ("  note: node '" ++ n.id ++ "' has custom type '" ++ n.type
      ++ "' (passes input through)")

/-- **The lines about a flow that has been checked**, of which the name and the graph are given. -/
def checked (name : String) (g : Graph) : List String :=
  let size := name ++ ": " ++ toString g.nodes.length ++ " nodes, " ++ toString g.edges.length
    ++ " edges"
  let start :=
    match g.trigger? with
    | some t => "  trigger: " ++ t.id
    | none => "  warning: no trigger node, runs will fail"
  size :: start :: g.nodes.filterMap note?

end Flowgraph.CommandLine.Listing
