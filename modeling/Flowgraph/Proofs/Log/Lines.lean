import Flowgraph.Log.Entry
import Flowgraph.Proofs.Json.Insert
import Flowgraph.Proofs.Json.ReadBack

/-!
# The lines of the log of runs

Whatever texts an event carries, its entry makes one line, and what is read from that line is of the
kind of the event, about its flow and its run, and has its details (`LogEntry.line_ofEvent`).
-/

namespace Flowgraph

/-- **The count of an event has 64 bits**, as every number that is written exactly. -/
def Event.Fits : Event → Prop
  | .runCompleted _ _ steps => steps < 2 ^ 64
  | .runStarted _ _ | .nodeCompleted _ _ _ _ _ | .runFailed _ _ _ | .statusChanged _ _
  | .scheduleFired _ _ => True

/-- **What the log says about an event**, member by member. -/
def Event.told : Event → List (String × Json)
  | .runStarted runId flowId =>
    [("event_type", .str "run_started"), ("flow_id", .str flowId), ("run_id", .str runId)]
  | .nodeCompleted runId flowId nodeId nodeType port =>
    [("event_type", .str "node_completed"), ("flow_id", .str flowId), ("run_id", .str runId),
      ("detail", .obj [("node_id", .str nodeId),
        ("port", match port with
          | some port => .str port
          | none => .null),
        ("type", .str nodeType)])]
  | .runCompleted runId flowId steps =>
    [("event_type", .str "run_completed"), ("flow_id", .str flowId), ("run_id", .str runId),
      ("detail", .obj [("steps", .num (.int steps))])]
  | .runFailed runId flowId error =>
    [("event_type", .str "run_failed"), ("flow_id", .str flowId), ("run_id", .str runId),
      ("detail", .obj [("error", .str error)])]
  | .statusChanged flowId status =>
    [("event_type", .str "status_changed"), ("flow_id", .str flowId),
      ("detail", .obj [("status", .str (match status with
        | .inactive => "inactive"
        | .active => "active"
        | .running => "running"
        | .error => "error"))])]
  | .scheduleFired schedule flowId =>
    [("event_type", .str "schedule_fired"), ("flow_id", .str flowId),
      ("detail", .obj [("schedule", .str schedule)])]

/-- **A line of the log tells an event.**  The line is one line, and a value is read from it that tells
the kind of the event, its flow, its run and its details, and has no member for what the event has
not. -/
structure Event.ToldBy (e : Event) (line : String) : Prop where
  /-- The line ends with a line break, and no character before breaks it. -/
  single : ∃ body, line = body ++ "\n" ∧ '\n' ∉ body.toList
  /-- What is read from the line. -/
  read : ∃ j, Json.ofText? line = some j ∧
    ∀ key ∈ ["event_type", "flow_id", "run_id", "detail"], j.member? key = e.told.lookup key

namespace LogEntry

/-- The details of an event are steady. -/
theorem steady_of_detail? {e : Event} (he : e.Fits) {j : Json} (h : detail? e = some j) :
    j.Steady 1 := by
  cases e with
  | runStarted runId flowId => exact nomatch h
  | nodeCompleted runId flowId nodeId nodeType port =>
    obtain rfl := Option.some.inj h
    refine Json.steady_ofMembers fun m hm => ?_
    simp only [List.mem_cons, List.not_mem_nil, or_false] at hm
    rcases hm with rfl | rfl | rfl
    · exact Json.steady_str 0 nodeId
    · exact Json.steady_str 0 nodeType
    · cases port with
      | none => exact Json.steady_null 0
      | some port => exact Json.steady_str 0 port
  | runCompleted runId flowId steps =>
    obtain rfl := Option.some.inj h
    have hsteps : (Number.int steps).Fits := ⟨by omega, by exact_mod_cast he⟩
    refine Json.steady_ofMembers fun m hm => ?_
    rw [List.mem_singleton.mp hm]
    exact ⟨trivial, hsteps, rfl⟩
  | runFailed runId flowId text | statusChanged flowId text | scheduleFired text flowId =>
    obtain rfl := Option.some.inj h
    refine Json.steady_ofMembers fun m hm => ?_
    rw [List.mem_singleton.mp hm]
    exact Json.steady_str 0 _

/-- The members of an entry are steady. -/
theorem steady_of_mem_members (time : Instant) {e : Event} (he : e.Fits) {m : String × Json}
    (hm : m ∈ (ofEvent time e).members) : m.2.Steady 1 := by
  unfold members ofEvent at hm
  simp only [List.mem_append, List.mem_cons, List.mem_map, Option.mem_toList, List.not_mem_nil,
    or_false] at hm
  rcases hm with ((rfl | rfl | rfl) | ⟨runId, -, rfl⟩) | ⟨detail, hdetail, rfl⟩
  · exact Json.steady_str 1 _
  · exact Json.steady_str 1 _
  · exact Json.steady_str 1 _
  · exact Json.steady_str 1 runId
  · exact steady_of_detail? he hdetail

/-- **The members of an entry** are the time, and what is said about the event. -/
theorem members_ofEvent (time : Instant) (e : Event) :
    (ofEvent time e).members = ("timestamp", .str time.rowText) :: e.told := by
  cases e with
  | runStarted runId flowId => rfl
  | nodeCompleted runId flowId nodeId nodeType port =>
    -- the details are written in the order of their keys
    have hdetail : Json.ofMembers [("node_id", .str nodeId), ("type", .str nodeType),
        ("port", .ofOption (port.map .str))]
        = .obj [("node_id", .str nodeId), ("port", .ofOption (port.map .str)),
          ("type", .str nodeType)] := by
      have htype : ¬ "type" < "node_id" ∧ "type" ≠ "node_id" := by decide
      have hport : ¬ "port" < "node_id" ∧ "port" ≠ "node_id" ∧ "port" < "type" := by decide
      simp only [Json.ofMembers, List.foldl_cons, List.foldl_nil, Json.insert, htype.1, htype.2,
        hport.1, hport.2.1, hport.2.2, if_true, if_false]
    simp only [members, ofEvent, detail?, hdetail]
    cases port <;> rfl
  | runCompleted runId flowId steps => rfl
  | runFailed runId flowId error => rfl
  | statusChanged flowId status => cases status <;> rfl
  | scheduleFired schedule flowId => rfl

/-- What is said about an event stands in the data of its entry. -/
theorem member?_ofMembers_told (time : Json) (e : Event) {key : String}
    (hkey : key ∈ ["event_type", "flow_id", "run_id", "detail"]) :
    (Json.ofMembers (("timestamp", time) :: e.told)).member? key = e.told.lookup key := by
  have hnil : ∀ key, Json.lookup key [] = none := fun _ => rfl
  unfold Json.member? Json.ofMembers
  simp only [List.mem_cons, List.not_mem_nil, or_false] at hkey
  rcases hkey with rfl | rfl | rfl | rfl <;> cases e <;>
    simp [Event.told, Json.lookup_insert, List.lookup_cons, hnil]

theorem line_eq (l : LogEntry) : l.line = (Json.obj l.members).compact ++ "\n" := rfl

/-- **The line of an entry tells its event.** -/
theorem line_ofEvent (time : Instant) {e : Event} (he : e.Fits) : e.ToldBy (ofEvent time e).line := by
  have hsteady (m : String × Json) (hm : m ∈ (ofEvent time e).members) : m.2.Steady 1 :=
    steady_of_mem_members time he hm
  have hfits : (Json.obj (ofEvent time e).members).Fits 2 :=
    ⟨by decide, Json.fitMembers_iff.mpr fun m hm => (hsteady m hm).fits⟩
  refine ⟨⟨(Json.obj (ofEvent time e).members).compact, line_eq _, ?_⟩,
    Json.ofMembers (ofEvent time e).members, ?_, ?_⟩
  · rw [Json.toList_compact]
    exact fun h => Json.ne_newline_of_mem_chars _ _ h rfl
  · have hvalue : Decoder.value (Tree.ofJson (Json.obj (ofEvent time e).members).reread)
        = .ok (Json.ofMembers (ofEvent time e).members) := by
      rw [Json.reread, Json.rereadMembers_of_same fun m hm => (hsteady m hm).same]
      exact Decoder.value_ofJson_obj fun m hm => (hsteady m hm).sorted
    have htext := Decoder.ofText_compact_append hfits (by decide) hvalue "\n" fun c hc => by
      rw [List.mem_singleton.mp hc]
      rfl
    rw [Json.ofText?, line_eq, htext]
    rfl
  · rw [members_ofEvent]
    exact fun key => member?_ofMembers_told _ e

end LogEntry

end Flowgraph
