import Flowgraph.Json.Writer

/-!
# What a run carries along

A run hands a payload from node to node and keeps variables by name.  Where a payload or a variable
is used as text, `Json.asText` says which text that is.
-/

namespace Flowgraph

/-- **The text of a value**: a text is itself, `null` is empty, and anything else is its compact
form. -/
def Json.asText : Json → String
  | .str s => s
  | .null => ""
  | j => j.compact

/-- The values of variables, in increasing order of the names, each name once. -/
abbrev Bindings := List (String × Json)

/-- **What a run carries along.** -/
structure Context where
  /-- The payload that the next node receives. -/
  input : Json
  bindings : Bindings
  deriving DecidableEq, Repr

namespace Context

/-- The context with a variable set. -/
def set (c : Context) (name : String) (value : Json) : Context :=
  { c with bindings := Json.insert name value c.bindings }

/-- The payload as text. -/
def text (c : Context) : String := c.input.asText

end Context

end Flowgraph
