import Flowgraph.Proofs.Store.InRows
import Flowgraph.Proofs.Store.Slots

/-!
# The log in rows

A record that has been appended to a log in rows stays there: whatever is asked of the store then, the
log only grows, and at its end (`World.exists_logs_answers`).  So every list of records has it in its
place, once, if it is a list of all records or of those of its flow (`World.log_lasts`).

What is read there has the data of the record.  It is the record itself, unless an output of a step is
there and `null`: this is read as an output that is not there (`Record.asRead_eq_iff`).  And it is read
only if the data of the record is read back from its text as a whole; that each payload would be is not
enough, since in the data of the record it stands three levels deeper (`World.log_lasts_altered`).
-/

namespace Flowgraph

/-! ### Requests and the log -/

namespace Request

/-- What a request does to the records of a log in rows: a record is added at the end, unless there is
one of the same run. -/
def onLog : Request → List Record → List Record
  | .append r, log => if r.runId ∈ log.map (·.runId) then log else log ++ [r]
  | _, log => log

/-- A request appends no record but one that is readable in a row. -/
def Readable : Request → Prop
  | .append r => r.Readable
  | _ => True

/-- **A log only grows**, and at its end. -/
theorem exists_onLog_eq (q : Request) (log : List Record) : ∃ more, q.onLog log = log ++ more := by
  cases q with
  | append r =>
    by_cases hid : r.runId ∈ log.map (·.runId)
    · exact ⟨[], (if_pos hid).trans (List.append_nil log).symm⟩
    · exact ⟨[r], if_neg hid⟩
  | _ => exact ⟨[], (List.append_nil log).symm⟩

end Request

namespace Store

variable {s : Store} {log : List Record} {r : Record}

/-- **A log in rows that holds records**, no two of one run, each of which is read back. -/
structure Logs (s : Store) (log : List Record) : Prop where
  hasTables : s.HasTables
  entries : s.entries = .inr (log.map .ofRecord)
  runIds : (log.map (·.runId)).Nodup
  kept : ∀ r ∈ log, r.Kept

theorem logs_empty : (rows .empty).Logs [] := ⟨⟨rfl, rfl⟩, rfl, List.nodup_nil, nofun⟩

/-- Such a log is a table of rows. -/
theorem Logs.exists_rows (hs : s.Logs log) : ∃ m, s = rows m ∧ m.runs = some (log.map .ofRecord) := by
  cases s with
  | memory m => exact nomatch hs.entries
  | rows m =>
    obtain ⟨table, htable⟩ := hs.hasTables.exists_runs
    have hentries := Sum.inr.inj hs.entries
    rw [htable] at hentries
    exact ⟨m, rfl, htable.trans (congrArg some hentries)⟩

/-- **What is listed is what has been logged**, in its order. -/
theorem Logs.recordsOf (hs : s.Logs log) (flow : Option String) : s.recordsOf flow
      = .ok ((log.filter fun r => flow.all (r.flowId == ·)).map Record.asRead) := by
  obtain ⟨m, rfl, hrows⟩ := hs.exists_rows
  exact RowStore.recordsOf_of_kept hrows hs.kept flow

/-- **A record that is logged is listed once** among those of all flows or of its own, and in no other
list. -/
theorem Logs.filter_runId (hs : s.Logs log) (hr : r ∈ log) (flow : Option String) :
    ((log.filter fun q => flow.all (q.flowId == ·)).map Record.asRead).filter
        (fun q => q.runId == r.runId) = if flow.all (r.flowId == ·) then [r.asRead] else [] := by
  have hone : (log.filter fun q => q.runId == r.runId) = [r] :=
    filter_key_eq Record.runId hs.runIds hr
  calc ((log.filter fun q => flow.all (q.flowId == ·)).map Record.asRead).filter
        (fun q => q.runId == r.runId)
      = ((log.filter fun q => flow.all (q.flowId == ·)).filter
          fun q => q.runId == r.runId).map Record.asRead := List.filter_map
    _ = ((log.filter fun q => q.runId == r.runId).filter
          fun q => flow.all (q.flowId == ·)).map Record.asRead := by
        rw [List.filter_comm]
    _ = ([r].filter fun q => flow.all (q.flowId == ·)).map Record.asRead := by rw [hone]
    _ = if flow.all (r.flowId == ·) then [r.asRead] else [] := by
        by_cases hflow : flow.all (r.flowId == ·) = true
        · rw [List.filter_cons_of_pos (by exact hflow), if_pos hflow]
          rfl
        · rw [List.filter_cons_of_neg (by exact hflow), if_neg hflow]
          rfl

/-! ### One request -/

theorem HasTables.entries_insert (hs : s.HasTables) (f : Flow) :
    (s.insert f).2.entries = s.entries := by
  cases s with
  | memory m =>
    show (Store.settle Store.memory m (m.insert f)).2.entries = _
    unfold MemoryStore.insert
    split <;> rfl
  | rows m =>
    obtain ⟨table, htable⟩ := hs.exists_flows
    show (Store.settle Store.rows m (m.insert f)).2.entries = _
    rw [RowStore.insert_of_flows htable]
    split <;> rfl

theorem HasTables.entries_delete (hs : s.HasTables) (id : String) :
    (s.delete id).2.entries = s.entries := by
  cases s with
  | memory m => rfl
  | rows m =>
    obtain ⟨table, htable⟩ := hs.exists_flows
    show (Store.settleWith Store.rows m (m.delete id)).2.entries = _
    rw [RowStore.delete_of_flows htable]
    rfl

/-- **A record of a new run is appended**; one of a run that is there is refused. -/
theorem Logs.append (hs : s.Logs log) (hr : r.Kept) :
    (s.append r).2.Logs ((Request.append r).onLog log) ∧
      (r.runId ∉ log.map (·.runId) → (s.append r).1 = .ok ()) := by
  have htables := hs.hasTables.append r
  obtain ⟨m, rfl, hrows⟩ := hs.exists_rows
  have htaken : (log.map RunRow.ofRecord).any (·.runId == r.runId) = true
      ↔ r.runId ∈ log.map (·.runId) := by
    simp only [List.any_map, List.any_eq_true, List.mem_map, Function.comp_apply, beq_iff_eq]
    exact Iff.rfl
  -- the table of runs has a key of its own, so a second row of a run is refused there
  have happ : (rows m).append r = settle rows m (if r.runId ∈ log.map (·.runId)
      then .error (.database (.notUnique (RowStore.runTable ++ ".run_id")))
      else .ok { m with runs := some (log.map .ofRecord ++ [.ofRecord r]) }) := by
    show settle rows m (m.append r) = _
    rw [RowStore.append_of_runs hrows]
    exact congrArg (settle rows m) (if_congr htaken rfl rfl)
  rw [happ] at htables ⊢
  by_cases hid : r.runId ∈ log.map (·.runId)
  · have hsame : (Request.append r).onLog log = log := if_pos hid
    rw [if_pos hid, hsame]
    exact ⟨hs, fun hnew => absurd hid hnew⟩
  · have hmore : (Request.append r).onLog log = log ++ [r] := if_neg hid
    rw [if_neg hid] at htables ⊢
    rw [hmore]
    refine ⟨⟨htables, ?_, ?_, ?_⟩, fun _ => rfl⟩
    · rw [List.map_append]
      rfl
    · -- the id is new, so the key still tells the rows apart
      rw [List.map_append, List.nodup_append]
      refine ⟨hs.runIds, List.nodup_singleton _, fun id hold other hnew heq => hid ?_⟩
      obtain rfl := List.mem_singleton.mp hnew
      have hsame : id = r.runId := heq
      exact hsame ▸ hold
    · intro q hq
      rcases List.mem_append.mp hq with hold | hnew
      · exact hs.kept q hold
      · exact List.mem_singleton.mp hnew ▸ hr

end Store

namespace World

variable {w : World} {log : List Record} {r : Record}

/-- **What a request does to a log in rows**, whoever asks. -/
theorem logs_answer (hw : w.store.Logs log) (cancelled : Bool) {q : Request} (hq : q.Readable) :
    (w.answer cancelled q).2.store.Logs (q.onLog log) := by
  have htables := answer_hasTables hw.hasTables cancelled q
  cases q with
  | append r => exact (hw.append (Record.Readable.kept hq)).1
  | insert f => exact ⟨htables, (hw.hasTables.entries_insert f).trans hw.entries, hw.runIds, hw.kept⟩
  | update f => exact ⟨htables, (hw.hasTables.entries_update f).trans hw.entries, hw.runIds, hw.kept⟩
  | setLife id status lastRun =>
    exact ⟨htables, (hw.hasTables.entries_setLife id status lastRun).trans hw.entries, hw.runIds,
      hw.kept⟩
  | delete id => exact ⟨htables, (hw.hasTables.entries_delete id).trans hw.entries, hw.runIds, hw.kept⟩
  | _ => exact hw

/-! ### Many requests -/

/-- **The world after some requests**, one after the other. -/
def answers (w : World) : List Request → World
  | [] => w
  | q :: rest => (w.answer false q).2.answers rest

/-- **Whatever is asked of a log in rows, it only grows**, and at its end. -/
theorem exists_logs_answers (hw : w.store.Logs log) {requests : List Request}
    (hrequests : ∀ q ∈ requests, q.Readable) :
    ∃ more, (w.answers requests).store.Logs (log ++ more) := by
  induction requests generalizing w log with
  | nil => exact ⟨[], (List.append_nil log).symm ▸ hw⟩
  | cons q rest ih =>
    have hnext := logs_answer hw false (hrequests q (List.mem_cons_self ..))
    obtain ⟨first, hfirst⟩ := q.exists_onLog_eq log
    rw [hfirst] at hnext
    obtain ⟨more, hmore⟩ := ih hnext fun q hq => hrequests q (List.mem_cons_of_mem _ hq)
    exact ⟨first ++ more, List.append_assoc log first more ▸ hmore⟩

/-- **A record lasts in a log in rows.**  A readable record of a run that is not in the log is
appended.  Whatever is asked of the store then, as long as only readable records are appended, the
records of all flows or of one are listed in the order in which they were appended, each as it is read
back.  The record is there once in the list of all and in that of its flow, and in no other.  It is
read back with its data, and as it is unless an output of a step is there and `null`. -/
theorem log_lasts (hw : w.store.Logs log) (hr : r.Readable) (hnew : r.runId ∉ log.map (·.runId)) :
    (w.answer false (.append r)).1 = .ok () ∧
      (∀ requests : List Request, (∀ q ∈ requests, q.Readable) → ∃ more, ∀ flow, ∃ found,
        ((w.answer false (.append r)).2.answers requests).store.recordsOf flow = .ok found ∧
        found = ((log ++ r :: more).filter fun q => flow.all (q.flowId == ·)).map Record.asRead ∧
        found.filter (fun q => q.runId == r.runId)
          = if flow.all (r.flowId == ·) then [r.asRead] else []) ∧
      r.asRead.toJson = r.toJson ∧ (r.asRead = r ↔ ∀ s ∈ r.steps, s.output ≠ some .null) := by
  refine ⟨(hw.append hr.kept).2 hnew, fun requests hrequests => ?_, r.toJson_asRead,
    Record.asRead_eq_iff⟩
  have hlog : (Request.append r).onLog log = log ++ [r] := if_neg hnew
  have happ := logs_answer hw false (q := .append r) hr
  rw [hlog] at happ
  obtain ⟨more, hmore⟩ := exists_logs_answers happ hrequests
  rw [List.append_assoc] at hmore
  have hmem : r ∈ log ++ ([r] ++ more) := by simp
  exact ⟨more, fun flow => ⟨_, hmore.recordsOf flow, rfl, hmore.filter_runId hmem flow⟩⟩

/-- A record of a run with a step that has put out `null`, and one that has put out nothing. -/
def silent : Record :=
  ⟨"second", "loop", ⟨0, 0⟩, some ⟨60, 500⟩, .str "payload",
    [⟨"start", "trigger", some (.str "payload"), some "next"⟩, ⟨"nulls", "tag", some .null, none⟩,
      ⟨"stop", "end", none, none⟩], .null, true, none⟩

/-- A record of a run that has failed. -/
def failed : Record :=
  ⟨"first", "loop", ⟨0, 0⟩, none, .null, [], .null, false, some ⟨"cancelled", "cancelled", none⟩⟩

/-- The record is appended once, and the output that is `null` is read as one that is not there. -/
theorem log_lasts_silent :
    let w := start (.rows .empty) ⟨0, 0⟩
    (w.answer false (.append silent)).1 = .ok () ∧ silent.asRead ≠ silent ∧
      ∃ found, ((w.answer false (.append silent)).2.answers
          [.delete "loop", .append failed, .append silent]).store.recordsOf (some "loop") = .ok found ∧
        found.filter (fun q => q.runId == "second") = [silent.asRead] := by
  intro w
  have hsilent : silent.Readable := by decide +kernel
  have hfailed : failed.Readable := by decide +kernel
  obtain ⟨happended, hlasts, -, hsame⟩ := log_lasts (w := w) Store.logs_empty hsilent
    List.not_mem_nil
  have hread : ∀ q ∈ ([.delete "loop", .append failed, .append silent] : List Request),
      q.Readable :=
    List.forall_mem_cons.mpr ⟨trivial, List.forall_mem_cons.mpr
      ⟨hfailed, List.forall_mem_singleton.mpr hsilent⟩⟩
  obtain ⟨more, hmore⟩ := hlasts _ hread
  obtain ⟨found, hfound, -, hone⟩ := hmore (some "loop")
  refine ⟨happended, fun h => ?_, found, hfound, hone⟩
  exact hsame.mp h ⟨"nulls", "tag", some .null, none⟩ (by decide) rfl

end World

/-- A text in so many lists, one in the other. -/
def Json.nested : Nat → Json
  | 0 => .str "core"
  | n + 1 => .arr [nested n]

namespace Record

/-- The payloads of a record. -/
def payloads (r : Record) : List Json := r.trigger :: r.output :: r.steps.filterMap (·.output)

/-- A record of a run with a step that has put out a payload. -/
def bearing (payload : Json) : Record :=
  ⟨"run", "loop", ⟨0, 0⟩, none, .null, [⟨"start", "trigger", some payload, none⟩], .null, true, none⟩

end Record

namespace World

variable {r : Record}

/-- If the record of an otherwise empty log is listed, then its text has been read. -/
theorem exists_read_of_listed {found : List Record}
    (h : ((start (.rows .empty) ⟨0, 0⟩).answer false (.append r)).2.store.recordsOf none = .ok found) :
    ∃ q, Record.decoder (Tree.read r.toJson.compact).1 = .ok q := by
  have hrow : [RunRow.ofRecord r].mapM RunRow.toRecord = .ok found := h
  rw [List.mapM_cons] at hrow
  obtain ⟨q, hq, -⟩ := bind_eq_ok_iff.mp hrow
  exact ⟨q, Decoder.of_ofText (mapError_eq_ok_iff.mp hq)⟩

/-- **It is not so that a record is listed as it was appended**, even if its data is read back; nor that
it is listed at all as long as its payloads are read back. -/
theorem log_lasts_altered :
    (¬ ∀ (w : World) (log : List Record) (r : Record), w.store.Logs log → r.Readable →
      r.runId ∉ log.map (·.runId) →
      ∃ found, (w.answer false (.append r)).2.store.recordsOf none = .ok found ∧ r ∈ found) ∧
    ¬ ∀ (w : World) (log : List Record) (r : Record), w.store.Logs log →
      (∀ j ∈ r.payloads, j.Faithful) → r.startedAt.Possible → (∀ t ∈ r.completedAt, t.Possible) →
      r.runId ∉ log.map (·.runId) →
      ∃ found, (w.answer false (.append r)).2.store.recordsOf none = .ok found := by
  let w := start (.rows .empty) ⟨0, 0⟩
  constructor
  · -- a step that has put out `null` is listed as one that has put out nothing
    intro hkept
    obtain ⟨found, hfound, hmem⟩ := hkept w [] (Record.bearing .null) Store.logs_empty (by decide +kernel)
      List.not_mem_nil
    have hlog := logs_answer (w := w) Store.logs_empty false
      (q := .append (Record.bearing .null)) (by decide +kernel : (Record.bearing .null).Readable)
    obtain rfl := Except.ok.inj (hfound.symm.trans (hlog.recordsOf none))
    exact absurd hmem (by decide)
  · -- this payload is read back on its own, but inside the record it nests too deep
    intro hlisted
    obtain ⟨found, hfound⟩ := hlisted w [] (Record.bearing (.nested 125)) Store.logs_empty
      (by decide +kernel) (by decide) (by decide) List.not_mem_nil
    obtain ⟨r, htree⟩ := exists_read_of_listed hfound
    have hunreadable : (Record.decoder (Tree.readValue
        (3 * (Record.bearing (.nested 125)).toJson.chars.length + 3) 0
        (Record.bearing (.nested 125)).toJson.chars).1).isOk = false := by decide +kernel
    rw [← Tree.read_compact, htree] at hunreadable
    exact nomatch hunreadable

end World

end Flowgraph
