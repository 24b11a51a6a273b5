import Flowgraph.Json.Tree
import Flowgraph.Text.Quoted

/-!
# What can be wrong with data

The causes for which data does not decode, and the text of each.  The text names what stands in the
data and what was expected in its place.
-/

namespace Flowgraph

/-- What stands in the data where something else was expected. -/
inductive Found where
  | null
  | boolean (b : Bool)
  | integer (i : Int)
  | real (x : Extended .double)
  | text (s : String)
  | sequence
  | map
  deriving DecidableEq, Repr

/-- The text for what was found. -/
def Found.message : Found → String
  | .null => "null"
  | .boolean b => "boolean `" ++ (if b then "true" else "false") ++ "`"
  | .integer i => "integer `" ++ toString i ++ "`"
  | .real x => "floating point `" ++ Layout.data.writeExtended x ++ "`"
  | .text s => "string " ++ Text.quoted s
  | .sequence => "sequence"
  | .map => "map"

/-- **Why data does not decode.** -/
inductive DecodeError where
  /-- A value of the wrong shape. -/
  | invalidType (found : Found) (expected : String)
  /-- A value of the right shape that is out of range. -/
  | invalidValue (found : Found) (expected : String)
  /-- A member that may not be left out is not there. -/
  | missingField (name : String)
  /-- A member is given twice. -/
  | duplicateField (name : String)
  /-- A name that is none of the choices. -/
  | unknownVariant (name : String) (choices : List String)
  /-- A list with too few items. -/
  | invalidLength (length : Nat) (expected : String)
  /-- A list with too many items. -/
  | tooLong (length : Nat)
  /-- A text that is no instant. -/
  | invalidInstant (text : String)
  /-- Text that is no data. -/
  | malformed
  deriving DecidableEq, Repr

namespace DecodeError

/-- The names of the choices, each between backquotes. -/
def listed (choices : List String) : String :=
  ", ".intercalate (choices.map fun c => "`" ++ c ++ "`")

/-- The text of an error. -/
def message : DecodeError → String
  | .invalidType found expected => "invalid type: " ++ found.message ++ ", expected " ++ expected
  | .invalidValue found expected => "invalid value: " ++ found.message ++ ", expected " ++ expected
  | .missingField name => "missing field `" ++ name ++ "`"
  | .duplicateField name => "duplicate field `" ++ name ++ "`"
  | .unknownVariant name choices =>
    "unknown variant `" ++ name ++ "`, expected one of " ++ listed choices
  | .invalidLength length expected =>
    "invalid length " ++ toString length ++ ", expected " ++ expected
  | .tooLong length =>
    "invalid length " ++ toString length ++ ", expected fewer elements in array"
  | .invalidInstant text => "invalid instant " ++ Text.quoted text
  | .malformed => "malformed text"

end DecodeError

/-- What the tree is, for a message; a broken or unreadable tree is nothing. -/
def Tree.found? : Tree → Option Found
  | .null => some .null
  | .bool b => some (.boolean b)
  | .num (.int i) => some (.integer i)
  | .num (.real x) => some (.real (.finite x))
  | .special x => some (.real x)
  | .str s => some (.text s)
  | .arr _ _ => some .sequence
  | .obj _ _ => some .map
  | .unreadable | .broken => none

/-- The error for a tree that is not of the expected shape. -/
def Tree.mismatch (expected : String) (t : Tree) : DecodeError :=
  match t.found? with
  | some found => .invalidType found expected
  | none => .malformed

end Flowgraph
