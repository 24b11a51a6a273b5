import Flowgraph.Proofs.Run.Walk

/-!
# The transcript of a whole run

Around its walk a run makes an id, reads the clock twice, publishes how it starts and how it ends,
and adds its record to the log.  `Executor.Ran` takes the transcript of a run apart
(`Executor.run_ran`); from it follow the events of a run (`Executor.Ran.published`) and its one record
(`Executor.Ran.appended`).
-/

namespace Flowgraph

open Interaction (Completes completes_ask_iff completes_bind_iff completes_done_iff)

namespace Executor

variable {x : Executor} {flow : Flow} {ctx : Context} {t : Transcript} {fin : Finished}

/-! ### The parts of a run -/

/-- What a run without a trigger leaves behind. -/
def idle (flow : Flow) (ctx : Context) (runId : String) (startedAt completedAt : Instant) :
    Finished :=
  ⟨{ opening runId flow startedAt ctx with
      completedAt := some completedAt
      error := some (.ofFault (.noTrigger flow.id) none) }, ctx, flow⟩

/-- What a run leaves behind whose walk is over. -/
def finished (flow : Flow) (ctx : Context) (runId : String) (startedAt completedAt : Instant)
    (e : Ending) : Finished :=
  ⟨closing (opening runId flow startedAt ctx) e completedAt, e.progress.context,
    flow.withLife (if e.fault.isNone then .active else .error) (some startedAt)⟩

/-- What a run does once its walk is over. -/
def afterWalk (flow : Flow) (ctx : Context) (runId : String) (startedAt : Instant) (e : Ending) :
    Operation Finished :=
  .ask .clock fun completedAt =>
    let fin := finished flow ctx runId startedAt completedAt e
    .ask (.publish (lastEvent fin.record fin.record.error)) fun _ =>
      .ask (.publish (.statusChanged flow.id fin.flow.status)) fun _ =>
        .ask (.append fin.record) fun _ => .done fin

theorem run_of_trigger {v : Node} (h : flow.trigger? = some v) :
    x.run flow ctx =
      .ask .freshRunId fun runId => .ask .clock fun startedAt =>
        .ask (.publish (.statusChanged flow.id .running)) fun _ =>
          .ask (.publish (.runStarted runId flow.id)) fun _ =>
            (x.walk flow.graph runId flow.id x.limit v ⟨ctx, []⟩).bind
              (afterWalk flow ctx runId startedAt) := by
  unfold run
  simp only [h]
  rfl

theorem run_of_no_trigger (h : flow.trigger? = none) :
    x.run flow ctx =
      .ask .freshRunId fun runId => .ask .clock fun startedAt => .ask .clock fun completedAt =>
        let fin := idle flow ctx runId startedAt completedAt
        .ask (.publish (lastEvent fin.record fin.record.error)) fun _ =>
          .ask (.append fin.record) fun _ => .done fin := by
  unfold run
  simp only [h]
  rfl

/-- Whatever the flow, a run begins with these two requests. -/
theorem exists_run_eq (x : Executor) (flow : Flow) (ctx : Context) :
    ∃ next : String → Instant → Operation Finished,
      x.run flow ctx = .ask .freshRunId fun runId => .ask .clock (next runId) := by
  cases htrig : flow.trigger? with
  | none => exact ⟨_, run_of_no_trigger htrig⟩
  | some v => exact ⟨_, run_of_trigger htrig⟩

/-- The requests of a run: those of a walk, and those around it. -/
def RunAsks : Request → Prop
  | .freshRunId | .clock | .append _ => True
  | q => Asks q

theorem runAsks_of_asks {q : Request} (h : Asks q) : RunAsks q := by
  cases q <;> first | exact h | trivial

/-- **A run asks for nothing else**, whatever it is answered. -/
theorem run_meets (x : Executor) (flow : Flow) (ctx : Context) :
    (x.run flow ctx).Meets (fun _ _ => True) RunAsks (fun _ => True) := by
  cases htrig : flow.trigger? with
  | none =>
    rw [run_of_no_trigger htrig]
    exact ⟨trivial, fun _ _ => ⟨trivial, fun _ _ => ⟨trivial, fun _ _ => ⟨trivial, fun _ _ =>
      ⟨trivial, fun _ _ => trivial⟩⟩⟩⟩⟩
  | some v =>
    rw [run_of_trigger htrig]
    refine ⟨trivial, fun runId _ => ⟨trivial, fun startedAt _ => ⟨trivial, fun _ _ =>
      ⟨trivial, fun _ _ => ?_⟩⟩⟩⟩
    have hwalk := walk_meets x flow.graph runId flow.id x.limit v ⟨ctx, []⟩
    exact Interaction.Meets.bind (hwalk.mono (fun _ _ h => h) (fun _ => runAsks_of_asks) fun _ h => h)
      fun e _ => ⟨trivial, fun _ _ => ⟨trivial, fun _ _ => ⟨trivial, fun _ _ =>
        ⟨trivial, fun _ _ => trivial⟩⟩⟩⟩

/-- A run meets every contract that allows what a run asks for. -/
theorem run_meets_of {rely : (q : Request) → q.Answer → Prop} {guarantee : Request → Prop}
    (x : Executor) (flow : Flow) (ctx : Context) (h : ∀ q, RunAsks q → guarantee q) :
    (x.run flow ctx).Meets rely guarantee fun _ => True :=
  (run_meets x flow ctx).mono (fun _ _ _ => trivial) h fun _ hr => hr

/-- A run neither changes a flow nor loads one. -/
theorem not_changesFlows_of_runAsks {q : Request} (h : RunAsks q) : ¬ q.ChangesFlows := by
  cases q <;> first | exact id | exact absurd h id

/-! ### Taking a run apart -/

/-- **A run that is over**, with its transcript. -/
inductive Ran (x : Executor) (flow : Flow) (ctx : Context) : Transcript → Finished → Prop
  /-- There was no trigger. -/
  | idle (h : flow.trigger? = none) (runId : String) (startedAt completedAt : Instant)
      (logged : Except Fault Unit) {fin : Finished}
      (hfin : fin = idle flow ctx runId startedAt completedAt) :
      Ran x flow ctx
        [⟨.freshRunId, runId⟩, ⟨.clock, startedAt⟩, ⟨.clock, completedAt⟩,
          ⟨.publish (lastEvent fin.record fin.record.error), ()⟩, ⟨.append fin.record, logged⟩] fin
  /-- There was a trigger, and the run has walked from it. -/
  | walked {v : Node} (h : flow.trigger? = some v) (runId : String)
      (startedAt completedAt : Instant) (logged : Except Fault Unit) {t : Transcript} {e : Ending}
      {fin : Finished}
      (hwalk : Completes (x.walk flow.graph runId flow.id x.limit v ⟨ctx, []⟩) t e)
      (hfin : fin = finished flow ctx runId startedAt completedAt e) :
      Ran x flow ctx
        (⟨.freshRunId, runId⟩ :: ⟨.clock, startedAt⟩
          :: ⟨.publish (.statusChanged flow.id .running), ()⟩
          :: ⟨.publish (.runStarted runId flow.id), ()⟩
          :: (t ++ [⟨.clock, completedAt⟩, ⟨.publish (lastEvent fin.record fin.record.error), ()⟩,
            ⟨.publish (.statusChanged flow.id fin.flow.status), ()⟩,
            ⟨.append fin.record, logged⟩])) fin

/-- **Every run that is over** has walked from a trigger, or there was none. -/
theorem run_ran (h : Completes (x.run flow ctx) t fin) : Ran x flow ctx t fin := by
  -- the requests before and after the walk are taken off one by one
  cases htrig : flow.trigger? with
  | none =>
    rw [run_of_no_trigger htrig] at h
    obtain ⟨runId, t₁, rfl, h₁⟩ := completes_ask_iff.mp h
    obtain ⟨startedAt, t₂, rfl, h₂⟩ := completes_ask_iff.mp h₁
    obtain ⟨completedAt, t₃, rfl, h₃⟩ := completes_ask_iff.mp h₂
    obtain ⟨-, t₄, rfl, h₄⟩ := completes_ask_iff.mp h₃
    obtain ⟨logged, t₅, rfl, h₅⟩ := completes_ask_iff.mp h₄
    obtain ⟨rfl, rfl⟩ := completes_done_iff.mp h₅
    exact .idle htrig runId startedAt completedAt logged rfl
  | some v =>
    rw [run_of_trigger htrig] at h
    obtain ⟨runId, t₁, rfl, h₁⟩ := completes_ask_iff.mp h
    obtain ⟨startedAt, t₂, rfl, h₂⟩ := completes_ask_iff.mp h₁
    obtain ⟨-, t₃, rfl, h₃⟩ := completes_ask_iff.mp h₂
    obtain ⟨-, t₄, rfl, h₄⟩ := completes_ask_iff.mp h₃
    obtain ⟨tw, e, t₅, rfl, hwalk, h₅⟩ := completes_bind_iff.mp h₄
    obtain ⟨completedAt, t₆, rfl, h₆⟩ := completes_ask_iff.mp h₅
    obtain ⟨-, t₇, rfl, h₇⟩ := completes_ask_iff.mp h₆
    obtain ⟨-, t₈, rfl, h₈⟩ := completes_ask_iff.mp h₇
    obtain ⟨logged, t₉, rfl, h₉⟩ := completes_ask_iff.mp h₈
    obtain ⟨rfl, rfl⟩ := completes_done_iff.mp h₉
    exact .walked htrig runId startedAt completedAt logged hwalk rfl

/-- **A run adds its record to the log** and nothing else. -/
theorem Ran.appended (h : Ran x flow ctx t fin) : Transcript.appended t = [fin.record] := by
  cases h with
  | idle _ _ _ _ _ _ => rfl
  | walked _ _ _ _ _ hwalk _ =>
    simp [Transcript.appended_cons, Transcript.record?, (walk_appended hwalk).1]

/-- The first thing a run does is to make the id of its record, and the next one is to look when it
starts. -/
theorem Ran.opened (h : Ran x flow ctx t fin) :
    ∃ t', t = ⟨.freshRunId, fin.record.runId⟩ :: ⟨.clock, fin.record.startedAt⟩ :: t' := by
  cases h with
  | idle _ _ _ _ _ hfin =>
    subst hfin
    exact ⟨_, rfl⟩
  | walked _ _ _ _ _ _ hfin =>
    subst hfin
    exact ⟨_, rfl⟩

theorem Ran.made (h : Ran x flow ctx t fin) :
    ∃ t', t = ⟨.freshRunId, fin.record.runId⟩ :: t' := by
  obtain ⟨t', ht'⟩ := h.opened
  exact ⟨_, ht'⟩

/-- **A run makes one id**, that of its record. -/
theorem Ran.runIds (h : Ran x flow ctx t fin) : Transcript.runIds t = [fin.record.runId] := by
  cases h with
  | idle _ _ _ _ _ hfin =>
    subst hfin
    rfl
  | walked _ _ _ _ _ hwalk hfin =>
    subst hfin
    simp [Transcript.runIds_cons, Transcript.runId?, (walk_appended hwalk).2, finished, closing,
      opening]

/-- **The record of a run** names its flow, and its trigger is what the run has started with. -/
theorem Ran.record (h : Ran x flow ctx t fin) :
    fin.record.flowId = flow.id ∧ fin.record.trigger = ctx.input := by
  cases h with
  | idle _ _ _ _ _ hfin | walked _ _ _ _ _ _ hfin =>
    subst hfin
    exact ⟨rfl, rfl⟩

/-- **A run in which a look finds a cancellation fails with it.** -/
theorem Ran.cancelled (h : Ran x flow ctx t fin) (ht : ¬ t.Calm) :
    fin.record.success = false ∧
      ∃ nodeId, fin.record.error = some ⟨"cancelled", "Run cancelled", some nodeId⟩ := by
  cases h with
  -- without a trigger nothing looks for a cancellation
  | idle _ _ _ _ _ _ => exact absurd (by simp [Transcript.calm_cons, Transcript.look?]) ht
  | @walked _ _ _ _ _ _ tw _ _ hwalk hfin =>
    subst hfin
    have hcut : ¬ tw.Calm := by
      intro hcalm
      refine ht ?_
      simp [Transcript.calm_cons, Transcript.look?, hcalm]
    obtain ⟨u, hu⟩ := walk_cancelled hwalk hcut
    refine ⟨?_, u.id, ?_⟩
    · simp only [finished, closing, hu, Option.isNone_some]
    · simp only [finished, closing, hu, Option.map_some]
      rfl

/-- **How a run ends**: one without a trigger fails at once and leaves the flow as it is; any other
leaves it with the start of the run for its last one, active if the run has succeeded and in error
if not. -/
inductive Ends (flow : Flow) (fin : Finished) : Prop
  | untriggered (h : flow.trigger? = none) (hflow : fin.flow = flow)
      (hsuccess : fin.record.success = false) (hsteps : fin.record.steps = [])
      (herror : ∃ failure, fin.record.error = some failure ∧ failure.kind = "no_trigger")
  | triggered (h : flow.trigger?.isSome)
      (hflow : fin.flow = flow.withLife (if fin.record.success then .active else .error)
        (some fin.record.startedAt))

theorem Ran.ends (h : Ran x flow ctx t fin) : Ends flow fin := by
  cases h with
  | idle hnone _ _ _ _ hfin =>
    subst hfin
    exact .untriggered hnone rfl rfl rfl ⟨_, rfl, rfl⟩
  | walked hsome _ _ _ _ _ hfin =>
    subst hfin
    exact .triggered (by rw [hsome]; rfl) rfl

/-- **What a run makes of a flow**: nothing if it has no trigger; else it leaves it active or in
error, with the start of the run for its last one. -/
inductive Leaves (flow : Flow) : Flow → Prop
  | idle (h : flow.trigger? = none) : Leaves flow flow
  | ended (h : flow.trigger?.isSome) (success : Bool) (startedAt : Instant) :
      Leaves flow (flow.withLife (if success then .active else .error) (some startedAt))

theorem Ran.leaves (h : Ran x flow ctx t fin) : Leaves flow fin.flow := by
  cases h.ends with
  | untriggered hnone hflow _ _ _ =>
    rw [hflow]
    exact .idle hnone
  | triggered hsome hflow =>
    rw [hflow]
    exact .ended hsome _ _

/-- **The events of a run** that has a trigger, by its record. -/
def announced (r : Record) : List Event :=
  [.statusChanged r.flowId .running, .runStarted r.runId r.flowId]
    ++ r.steps.map (stepEvent r.runId r.flowId)
    ++ [lastEvent r r.error, .statusChanged r.flowId (if r.success then .active else .error)]

/-- **A run publishes what its record says.** -/
theorem Ran.published (h : Ran x flow ctx t fin) :
    Transcript.published t =
      if flow.trigger?.isSome then announced fin.record
      else [lastEvent fin.record fin.record.error] := by
  cases h with
  | idle htrig _ _ _ _ _ => simp [htrig, Transcript.published_cons, Transcript.event?]
  | walked htrig runId startedAt completedAt logged hwalk hfin =>
    subst hfin
    have hsteps := walk_published hwalk
    simp only [List.reverse_nil, List.map_nil, List.nil_append] at hsteps
    simp [htrig, Transcript.published_cons, Transcript.event?, announced, finished, closing,
      opening, ← hsteps, Ending.steps, Flow.withLife]

end Executor

end Flowgraph
