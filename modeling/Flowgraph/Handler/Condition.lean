import Flowgraph.Run.Context
import Flowgraph.Text.Blank
import Flowgraph.Text.LowerCase

/-!
# Conditions

What a condition node may ask of its payload.  Payload and value are compared as texts in lower
case.
-/

namespace Flowgraph

/-- **What is asked of a payload.** -/
inductive Condition where
  | contains
  | equals
  | notEmpty
  /-- Anything else, which never holds. -/
  | unknown
  deriving DecidableEq, Repr

namespace Condition

/-- The condition of a name. -/
def ofName : String → Condition
  | "contains" => contains
  | "equals" => equals
  | "not_empty" => notEmpty
  | _ => unknown

/-- **The condition holds** of a payload and a value. -/
def holds (c : Condition) (input value : Json) : Bool :=
  let input := Text.lower input.asText
  let value := Text.lower value.asText
  match c with
  | contains => Text.occursIn value.toList input.toList
  | equals => input == value
  | notEmpty => !Text.isBlank input
  | unknown => false

end Condition

end Flowgraph
