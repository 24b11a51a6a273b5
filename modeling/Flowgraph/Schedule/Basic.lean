import Flowgraph.Json.Decode

/-!
# Schedules

When a flow is to run by itself, and on what.
-/

namespace Flowgraph

/-- **A schedule.** -/
structure Schedule where
  name : String
  flowId : String
  /-- When it fires; a text that is no calendar expression never does. -/
  cron : String
  payload : Option Json
  deriving DecidableEq, Repr

namespace Schedule

/-- The members of a schedule in data. -/
def fields : List Field :=
  [.required "name" Decoder.string, .required "flow_id" Decoder.string,
    .required "cron" Decoder.string,
    .withDefault "payload" (Decoder.optional Decoder.value) none]

/-- Reads a schedule. -/
def decoder : Decoder Schedule := fun t =>
  (Decoder.record "ScheduleConfig" fields t).map fun (name, flowId, cron, payload, ()) =>
    ⟨name, flowId, cron, payload⟩

/-- The data of a schedule. -/
def toJson (s : Schedule) : Json :=
  Json.ofMembers [("name", .str s.name), ("flow_id", .str s.flowId), ("cron", .str s.cron),
    ("payload", .ofOption s.payload)]

end Schedule

end Flowgraph
