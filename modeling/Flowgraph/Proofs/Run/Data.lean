import Flowgraph.Run.Record
import Flowgraph.Proofs.Json.Decode
import Flowgraph.Proofs.Time.Text

/-!
# Reading back the records of runs

What a record is written as is decoded as the same record, but for one thing: an output of a step that
is `null` is written like one that is absent, and is decoded as absent (`Step.asRead`).  Such records
have the same data.
-/

namespace Flowgraph

/-! ### Steps and failures -/

/-- The step as it is read back. -/
def Step.asRead (s : Step) : Step := { s with output := s.output.filter (· ≠ .null) }

theorem Step.toJson_eq (s : Step) :
    s.toJson = .obj [("node_id", .str s.nodeId), ("output", .ofOption s.output),
      ("port", .ofOption (s.port.map .str)), ("type", .str s.nodeType)] := by
  simp (disch := decide) only [toJson, Json.ofMembers, Json.insert, List.foldl, if_pos, if_neg]

@[simp] theorem Step.toJson_asRead (s : Step) : s.asRead.toJson = s.toJson := by
  obtain ⟨nodeId, nodeType, output, port⟩ := s
  rcases output with _ | output
  · rfl
  · by_cases hnull : output = .null
    · subst hnull
      rfl
    · simp [asRead, Option.filter, hnull]

/-- A step is read back as it is, but if its output is there and `null`. -/
theorem Step.asRead_eq_iff {s : Step} : s.asRead = s ↔ s.output ≠ some .null := by
  obtain ⟨nodeId, nodeType, output, port⟩ := s
  rw [asRead, Step.mk.injEq]
  rcases output with _ | output
  · simp
  · by_cases hnull : output = .null
    · simp [hnull, Option.filter]
    · simp [hnull, Option.filter]

theorem Step.output_ofJson {output : Option Json} (h : (Json.ofOption output).Sorted) :
    Decoder.optional Decoder.value (Tree.ofJson (.ofOption output))
      = .ok (output.filter (· ≠ .null)) := by
  rcases output with _ | j
  · rfl
  · -- an output that is null cannot be told from one that is absent
    by_cases hnull : j = .null
    · subst hnull
      rfl
    · have hread : Decoder.optional Decoder.value (Tree.ofJson (.ofOption ((some j).map id)))
          = .ok (some j) :=
        Decoder.optional_ofJson (fun _ hj => Option.some.inj hj ▸ hnull)
          fun _ hj => Option.some.inj hj ▸ Decoder.value_ofJson h
      simpa [Option.filter, hnull] using hread

/-- **A step is read back** from its data, if this is in order. -/
theorem Step.decoder_ofJson {s : Step} (hs : s.toJson.Sorted) :
    decoder (Tree.ofJson s.toJson) = .ok s.asRead := by
  rw [toJson_eq] at hs ⊢
  have houtput := output_ofJson
    (hs.member (m := ("output", .ofOption s.output)) (by simp))
  have hport : Decoder.optional Decoder.string (Tree.ofJson (.ofOption (s.port.map .str)))
      = .ok s.port := by
    cases s.port <;> rfl
  rw [decoder, Decoder.record_ofJson]
  simp [fields, houtput, hport, asRead]

/-- **A failure is read back** from its data. -/
theorem Failure.decoder_ofJson (f : Failure) : decoder (Tree.ofJson f.toJson) = .ok f := by
  obtain ⟨kind, message, nodeId⟩ := f
  cases nodeId
  all_goals
    simp (disch := decide) only [toJson, List.append_nil, List.cons_append, List.nil_append,
      Json.ofMembers, Json.insert, List.foldl, if_neg]
    rw [decoder, Decoder.record_ofJson]
    simp [fields, Decoder.optional]

theorem Failure.toJson_ne_null (f : Failure) : f.toJson ≠ .null := by
  simp [toJson, Json.ofMembers]

/-! ### Records -/

/-- **The record as it is read back.** -/
def Record.asRead (r : Record) : Record := { r with steps := r.steps.map Step.asRead }

theorem Record.toJson_eq (r : Record) :
    r.toJson = .obj [("completed_at", .ofOption (r.completedAt.map Instant.toJson)),
      ("error", .ofOption (r.error.map Failure.toJson)), ("flow_id", .str r.flowId),
      ("output", r.output), ("run_id", .str r.runId), ("started_at", r.startedAt.toJson),
      ("steps", .arr (r.steps.map Step.toJson)), ("success", .bool r.success),
      ("trigger", r.trigger)] := by
  simp (disch := decide) only [toJson, Json.ofMembers, Json.insert, List.foldl, if_pos, if_neg]

/-- A record has the data of the one that is read back. -/
@[simp] theorem Record.toJson_asRead (r : Record) : r.asRead.toJson = r.toJson := by
  simp [toJson_eq, asRead]

/-- **A record is read back as it is**, but if an output of a step is there and `null`. -/
theorem Record.asRead_eq_iff {r : Record} :
    r.asRead = r ↔ ∀ s ∈ r.steps, s.output ≠ some .null := by
  have hsteps : r.asRead = r ↔ r.steps.map Step.asRead = r.steps.map id := by
    rw [List.map_id]
    constructor
    · intro h
      exact congrArg Record.steps h
    · intro h
      rw [asRead, h]
  rw [hsteps, List.map_inj_left]
  exact forall₂_congr fun s _ => Step.asRead_eq_iff

theorem Instant.toJson_ne_null (t : Instant) : t.toJson ≠ .null := by simp [toJson]

theorem Instant.decoder_ofJson {t : Instant} (ht : t.Possible) :
    decoder (Tree.ofJson t.toJson) = .ok t := by
  rw [toJson, Tree.ofJson, decoder, readLoosely?_text ht]

/-- **A record is read back** from its data, if this is in order and its instants are possible. -/
theorem Record.decoder_ofJson {r : Record} (hr : r.toJson.Sorted) (hstarted : r.startedAt.Possible)
    (hcompleted : ∀ t ∈ r.completedAt, t.Possible) :
    decoder (Tree.ofJson r.toJson) = .ok r.asRead := by
  rw [toJson_eq] at hr ⊢
  -- each member is read back, and the record is put together from them
  have hmember := fun m => hr.member (m := m)
  have hstart := Instant.decoder_ofJson hstarted
  have hend := Decoder.optional_ofJson (d := Instant.decoder) (o := r.completedAt)
    (fun t _ => t.toJson_ne_null) fun t ht => Instant.decoder_ofJson (hcompleted t ht)
  have hfailure := Decoder.optional_ofJson (d := Failure.decoder) (o := r.error)
    (fun f _ => f.toJson_ne_null) fun f _ => f.decoder_ofJson
  have houtput : Decoder.value (Tree.ofJson r.output) = .ok r.output :=
    Decoder.value_ofJson (hmember ("output", r.output) (by simp))
  have htrigger : Decoder.value (Tree.ofJson r.trigger) = .ok r.trigger :=
    Decoder.value_ofJson (hmember ("trigger", r.trigger) (by simp))
  have hsteps : Decoder.list Step.decoder (Tree.ofJson (.arr (r.steps.map Step.toJson)))
      = .ok (r.steps.map Step.asRead) := by
    have hsorted := Json.sorted_arr_iff.mp
      (hmember ("steps", .arr (r.steps.map Step.toJson)) (by simp))
    exact Decoder.list_ofJson fun s hs =>
      Step.decoder_ofJson (hsorted s.toJson (List.mem_map_of_mem hs))
  rw [decoder, Decoder.record_ofJson]
  simp [fields, hstart, hend, hfailure, houtput, htrigger, hsteps, asRead]

end Flowgraph
