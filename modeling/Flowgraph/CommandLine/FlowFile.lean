import Flowgraph.Flow.Operations

/-!
# Flow files

A flow file is a draft that may have an id.  A flow that has one is stored under it, and a flow that
has none gets one.
-/

namespace Flowgraph.CommandLine

/-- **What a flow file holds.** -/
structure FlowFile where
  id : Option String
  draft : Draft
  deriving Repr

namespace FlowFile

/-- The member of a flow file that a draft does not have. -/
def idField : Field := .withDefault "id" (Decoder.optional Decoder.string) none

/-- Reads a flow file.  It is an object, and every member of it must stand for a value, also one
that is passed over. -/
def decoder : Decoder FlowFile
  | .obj ms closing => do
    let _ ← Decoder.table (.obj ms closing)
    let (id, ()) ← Decoder.record "FlowFile" [idField] (.obj ms closing)
    let draft ← Draft.decoder (.obj (ms.filter fun m => !idField.answersTo m.1) closing)
    return ⟨id, draft⟩
  | t => .error (t.mismatch "struct FlowFile")

/-- Reads the text of a flow file. -/
def ofText? (text : String) : Option FlowFile := (decoder.ofText text).toOption

/-- **Stores the flow of the file.** -/
def store (f : FlowFile) : Attempt Flow := do
  match f.id with
  | none => Flows.create f.draft
  | some id => do
    let graph ← f.draft.graph
    let createdAt ← ExceptT.lift (.request .clock)
    Flows.importFlow (.fresh id f.draft.name f.draft.description graph createdAt)

end FlowFile

end Flowgraph.CommandLine
