import Flowgraph.Json.Decode
import Flowgraph.Time.Rfc3339

/-!
# Instants in data

An instant stands in data as its text.
-/

namespace Flowgraph

namespace Instant

/-- Reads an instant, in the loose form. -/
def decoder : Decoder Instant
  | .str s =>
    match readLoosely? s with
    | some t => .ok t
    | none => .error (.invalidInstant s)
  | t => .error (t.mismatch "an RFC 3339 formatted date and time string")

/-- The data of an instant. -/
def toJson (t : Instant) : Json := .str t.text

end Instant

end Flowgraph
