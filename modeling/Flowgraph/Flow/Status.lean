import Flowgraph.Json.Decode
import Flowgraph.Fault

/-!
# The status of a flow

A flow is inactive until it is run for the first time; from then on its status tells whether a run
is under way, and how the last one ended.
-/

namespace Flowgraph

/-- **Where a flow stands.** -/
inductive Status where
  | inactive
  | active
  | running
  | error
  deriving DecidableEq, Repr, Inhabited

namespace Status

/-- The text of a status. -/
def text : Status → String
  | inactive => "inactive"
  | active => "active"
  | running => "running"
  | error => "error"

/-- Every status. -/
def all : List Status := [inactive, active, running, error]

/-- The status of this text. -/
def ofText? (s : String) : Option Status := all.find? (·.text == s)

/-- Reads a stored status. -/
def ofStored (s : String) : Except StoreFault Status :=
  match ofText? s with
  | some status => .ok status
  | none => .error (.unknownStatus s)

/-- Reads a status from data. -/
def decoder : Decoder Status := Decoder.choice (all.map fun s => (s.text, s))

/-- The data of a status. -/
def toJson (s : Status) : Json := .str s.text

/-- Each status is read back from its text. -/
theorem ofText?_text (s : Status) : ofText? s.text = some s := by
  cases s <;> decide

end Status

end Flowgraph
