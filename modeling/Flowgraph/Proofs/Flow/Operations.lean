import Flowgraph.Flow.Operations
import Flowgraph.Proofs.Run.Whole

/-!
# What the operations on stored flows ask for

Each operation is a chain of requests, any of which may fail and end it.  `Attempt.meets_bind` and
`completes_attempt_bind_iff` go along such a chain.

For every operation there is one contract (`Flows.create_meets` and so on): it asks for nothing but
the requests of the chain, and whatever it stores is made from what it has loaded.  The contract of
`Flows.execute` is that of the run.  `Flows.Executed` takes the transcript of an execution apart.
-/

namespace Flowgraph

open Interaction (Completes completes_ask_iff completes_bind_iff completes_done_iff)

/-! ### Operations that may fail -/

namespace Attempt

variable {α β : Type} {m : Attempt α} {f : α → Attempt β} {t : Transcript} {r : Except Fault β}
  {rely : (q : Request) → q.Answer → Prop} {guarantee : Request → Prop} {promise : α → Prop}
  {promise' : β → Prop}

theorem run_bind (m : Attempt α) (f : α → Attempt β) :
    (m >>= f).run = m.run.bind fun
      | .ok a => (f a).run
      | .error e => .done (.error e) := by
  refine congrArg (Interaction.bind m.run) (funext fun r => ?_)
  cases r <;> rfl

/-- **An attempt after another** is over when the first one has failed, or when the second one is. -/
theorem completes_bind (h : Completes (m >>= f).run t r) :
    (∃ e, Completes m.run t (.error e) ∧ r = .error e) ∨
      ∃ t₁ a t₂, t = t₁ ++ t₂ ∧ Completes m.run t₁ (.ok a) ∧ Completes (f a).run t₂ r := by
  rw [run_bind] at h
  obtain ⟨t₁, r₁, t₂, rfl, h₁, h₂⟩ := completes_bind_iff.mp h
  cases r₁ with
  | error e =>
    obtain ⟨rfl, rfl⟩ := completes_done_iff.mp h₂
    exact .inl ⟨e, by rwa [List.append_nil], rfl⟩
  | ok a => exact .inr ⟨t₁, a, t₂, rfl, h₁, h₂⟩

theorem completes_lift {o : Operation β} (h : Completes (ExceptT.lift o : Attempt β).run t r) :
    ∃ b, Completes o t b ∧ r = .ok b := by
  obtain ⟨t₁, b, t₂, rfl, h₁, h₂⟩ := completes_bind_iff.mp h
  obtain ⟨rfl, rfl⟩ := completes_done_iff.mp h₂
  exact ⟨b, by rwa [List.append_nil], rfl⟩

/-- **An attempt meets a contract**, whose promise is for the case that it does not fail. -/
def Meets (rely : (q : Request) → q.Answer → Prop) (guarantee : Request → Prop)
    (promise : α → Prop) (m : Attempt α) : Prop :=
  m.run.Meets rely guarantee fun r => ∀ a, r = .ok a → promise a

theorem meets_pure {a : α} (h : promise a) : Meets rely guarantee promise (pure a) :=
  fun _ ha => Except.ok.inj ha ▸ h

theorem meets_throw (e : Fault) : Meets rely guarantee promise (throw e) := nofun

theorem meets_bind {P : α → Prop} (hm : m.Meets rely guarantee P)
    (hf : ∀ a, P a → (f a).Meets rely guarantee promise') :
    (m >>= f).Meets rely guarantee promise' := by
  unfold Meets
  rw [run_bind]
  refine Interaction.Meets.bind hm fun r hr => ?_
  cases r with
  | error e => exact nofun
  | ok a => exact hf a (hr a rfl)

theorem meets_lift {o : Operation α} (ho : o.Meets rely guarantee promise) :
    Meets rely guarantee promise (ExceptT.lift o) :=
  Interaction.Meets.bind ho fun _ ha => meets_pure ha

/-- What may have failed before is part of the attempt. -/
theorem meets_ofExcept {e : Except Fault α} (h : ∀ a, e = .ok a → promise a) :
    Meets rely guarantee promise (liftM e : Attempt α) := by
  cases e with
  | ok a => exact meets_pure (h a rfl)
  | error e => exact meets_throw e

end Attempt

namespace Flows

open Attempt (meets_bind meets_lift meets_ofExcept meets_pure meets_throw)

/-! ### Loading and updating, request by request -/

/-- The flow that the store has been asked for, if it is there. -/
def found (id : String) : Except Fault (Option Flow) → Except Fault Flow
  | .error e => .error e
  | .ok none => .error (.flowNotFound id)
  | .ok (some flow) => .ok flow

theorem get_run (id : String) : (get id).run = .ask (.get id) fun a => .done (found id a) := by
  refine congrArg (Interaction.ask (Request.get id)) (funext fun a => ?_)
  match a with
  | .error e => rfl
  | .ok none => rfl
  | .ok (some flow) => rfl

/-- What is left of an update once the store has told whether there is the flow. -/
def amend (id : String) (u : Update) : Except Fault (Option Flow) → Attempt Flow
  | .error e => throw e
  | .ok none => throw (.flowNotFound id)
  | .ok (some flow) => do
    let flow ← u.apply flow
    if ← attempt (.request (.update flow)) then get id
    else throw (.flowNotFound id)

/-- **The first thing an update does** is to load the flow. -/
theorem update_run (id : String) (u : Update) :
    (update id u).run = .ask (.get id) fun found => (amend id u found).run := by
  refine congrArg (Interaction.ask (Request.get id)) (funext fun found => ?_)
  match found with
  | .error e => rfl
  | .ok none => rfl
  | .ok (some flow) => rfl

/-- What is left of an update once the new flow has been stored, if it has. -/
def reload (id : String) : Except Fault Bool → Attempt Flow
  | .error e => throw e
  | .ok false => throw (.flowNotFound id)
  | .ok true => get id

theorem amend_run {id : String} {u : Update} {flow flow' : Flow} (h : u.apply flow = .ok flow') :
    (amend id u (.ok (some flow))).run
      = .ask (.update flow') fun stored => (reload id stored).run := by
  simp only [amend, h]
  refine congrArg (Interaction.ask (Request.update flow')) (funext fun stored => ?_)
  match stored with
  | .error e => rfl
  | .ok false => rfl
  | .ok true => rfl

/-! ### The contract of each operation -/

section Contracts

variable {rely : (q : Request) → q.Answer → Prop} {guarantee : Request → Prop} {id : String}

theorem request_meets {q : Request} (h : guarantee q) :
    (Operation.request q).Meets rely guarantee (rely q) := ⟨h, fun _ ha => ha⟩

theorem get_meets (h : guarantee (.get id)) :
    (get id).Meets rely guarantee fun flow => rely (.get id) (.ok (some flow)) := by
  refine meets_bind (P := fun found => rely (.get id) (.ok found)) ?_ fun found hfound => ?_
  · refine ⟨h, ?_⟩
    rintro _ ha found rfl
    exact ha
  · cases found with
    | none => exact meets_throw _
    | some flow => exact meets_pure hfound

theorem list_meets (h : guarantee .list) :
    list.Meets rely guarantee fun flows => rely .list (.ok flows) := by
  refine ⟨h, ?_⟩
  rintro _ ha flows rfl
  exact ha

theorem executions_meets {flow : Option String} (h : guarantee (.records flow)) :
    (executions flow).Meets rely guarantee fun _ => True :=
  ⟨h, fun _ _ _ _ => trivial⟩

/-- What is created has never been run, and has the graph of its draft. -/
theorem create_meets {draft : Draft} (hid : guarantee .freshFlowId)
    (hclock : guarantee .clock)
    (hinsert : ∀ id g createdAt, draft.graph = .ok g →
      guarantee (.insert (.fresh id draft.name draft.description g createdAt))) :
    (create draft).Meets rely guarantee fun flow => flow.graph.WellFormed := by
  refine meets_bind (meets_lift (request_meets hid)) fun id _ => ?_
  refine meets_bind (meets_ofExcept fun g hg => hg) fun g hg => ?_
  refine meets_bind (meets_lift (request_meets hclock)) fun createdAt _ => ?_
  refine meets_bind (P := fun _ => True) ⟨hinsert id g createdAt hg, fun _ _ _ _ => trivial⟩
    fun _ _ => ?_
  exact meets_pure (Draft.wellFormed_of_graph hg)

/-- What is imported has a well-formed graph. -/
theorem importFlow_meets {flow : Flow}
    (hinsert : flow.graph.WellFormed → guarantee (.insert flow.neverRun)) :
    (importFlow flow).Meets rely guarantee fun flow => flow.graph.WellFormed := by
  refine meets_bind (meets_ofExcept fun _ hv => Flow.validate_eq_ok_iff.mp hv) fun _ hg => ?_
  refine meets_bind (P := fun _ => True) ⟨hinsert hg, fun _ _ _ _ => trivial⟩ fun _ _ => ?_
  exact meets_pure hg

/-- What is stored by an update is made from what was loaded. -/
theorem update_meets {u : Update} (hget : guarantee (.get id))
    (hupdate : ∀ flow flow', rely (.get id) (.ok (some flow)) → u.apply flow = .ok flow' →
      guarantee (.update flow')) :
    (update id u).Meets rely guarantee fun flow => rely (.get id) (.ok (some flow)) := by
  -- the flow is loaded twice: to make the new one of it, and again for the reply
  refine meets_bind (get_meets hget) fun flow hflow => ?_
  refine meets_bind (meets_ofExcept fun flow' h => hupdate flow flow' hflow h) fun flow' h => ?_
  refine meets_bind (P := fun _ => True) ⟨h, fun _ _ _ _ => trivial⟩ fun found _ => ?_
  cases found with
  | true => exact get_meets hget
  | false => exact meets_throw _

theorem delete_meets (h : guarantee (.delete id)) :
    (delete id).Meets rely guarantee fun _ => True := by
  refine meets_bind (P := fun _ => True) ⟨h, fun _ _ _ _ => trivial⟩ fun found _ => ?_
  cases found with
  | true => exact meets_pure trivial
  | false => exact meets_throw _

/-- What is left of an execution once its flow is loaded and may be run. -/
def launch (x : Executor) (id : String) (flow : Flow) (ctx : Context) :
    Attempt Executor.Finished := do
  let finished ← ExceptT.lift (x.run flow ctx)
  if finished.flow.lastRun.isSome then
    let _ ← ExceptT.lift
      (.request (.setLife id finished.flow.status finished.flow.lastRun))
  return finished

theorem execute_eq (x : Executor) (id : String) (ctx : Context) :
    execute x id ctx = (do
      let flow ← get id
      if flow.trigger?.isSome then
        attempt (.request (.setLife id .running flow.lastRun))
      launch x id flow ctx) := rfl

/-- What is left of an execution once the store has told whether there is the flow. -/
def resume (x : Executor) (id : String) (ctx : Context) :
    Except Fault (Option Flow) → Attempt Executor.Finished
  | .error e => throw e
  | .ok none => throw (.flowNotFound id)
  | .ok (some flow) => do
    if flow.trigger?.isSome then
      attempt (.request (.setLife id .running flow.lastRun))
    launch x id flow ctx

/-- **The first thing an execution does** is to load the flow. -/
theorem execute_run (x : Executor) (id : String) (ctx : Context) :
    (execute x id ctx).run = .ask (.get id) fun found => (resume x id ctx found).run := by
  rw [execute_eq]
  refine congrArg (Interaction.ask (Request.get id)) (funext fun found => ?_)
  match found with
  | .error e => rfl
  | .ok none => rfl
  | .ok (some flow) => rfl

/-- A flow without a trigger is run at once. -/
theorem resume_of_no_trigger {x : Executor} {id : String} {ctx : Context} {flow : Flow}
    (h : flow.trigger? = none) :
    resume x id ctx (.ok (some flow)) = launch x id flow ctx := by
  simp only [resume, h]
  rfl

/-- A flow with a trigger is marked as running first. -/
theorem resume_of_trigger {x : Executor} {id : String} {ctx : Context} {flow : Flow}
    (h : flow.trigger?.isSome) :
    (resume x id ctx (.ok (some flow))).run = .ask (.setLife id .running flow.lastRun) fun
      | .error e => .done (.error e)
      | .ok _ => (launch x id flow ctx).run := by
  simp only [resume, h, if_true]
  refine congrArg (Interaction.ask (Request.setLife id .running flow.lastRun))
    (funext fun stored => ?_)
  cases stored <;> rfl

/-- **An execution stores at its end the life that the run has left**, if that has a last run. -/
theorem launch_run (x : Executor) (id : String) (flow : Flow) (ctx : Context) :
    (launch x id flow ctx).run = (x.run flow ctx).bind fun fin =>
      if fin.flow.lastRun.isSome then
        .ask (.setLife id fin.flow.status fin.flow.lastRun) fun _ => .done (.ok fin)
      else .done (.ok fin) := by
  unfold launch
  rw [Attempt.run_bind]
  show Interaction.bind (Interaction.bind (x.run flow ctx) _) _ = _
  rw [Interaction.bind_assoc]
  refine congrArg (Interaction.bind (x.run flow ctx)) (funext fun fin => ?_)
  show ExceptT.run (if fin.flow.lastRun.isSome then _ else _) = _
  split <;> rfl

/-- What is left of an execution asks for what its run asks for, and for the life that the run
leaves to be stored. -/
theorem launch_meets {x : Executor} {ctx : Context} {flow : Flow}
    (hend : ∀ flow', Executor.Leaves flow flow' → flow'.lastRun.isSome →
      guarantee (.setLife id flow'.status flow'.lastRun))
    (hrun : (x.run flow ctx).Meets rely guarantee fun _ => True) :
    (launch x id flow ctx).Meets rely guarantee fun _ => True := by
  -- the contract of the run is taken together with what every run leaves
  have hleaves : (x.run flow ctx).Meets rely guarantee fun fin => Executor.Leaves flow fin.flow :=
    hrun.of_completes fun _ _ h => (Executor.run_ran h).leaves
  refine meets_bind (meets_lift hleaves) fun finished hfin => ?_
  split
  · next hlast =>
    exact meets_bind (meets_lift (request_meets (hend _ hfin hlast)))
      fun _ _ => meets_pure trivial
  · exact meets_pure trivial

/-- An execution asks for what its run asks for, and for two lives to be stored: that of a flow with
a trigger that is now running, and the one that the run leaves. -/
theorem execute_meets_lives {x : Executor} {ctx : Context} (hget : guarantee (.get id))
    (hstart : ∀ flow, rely (.get id) (.ok (some flow)) → flow.trigger?.isSome →
      guarantee (.setLife id .running flow.lastRun))
    (hend : ∀ flow flow', rely (.get id) (.ok (some flow)) → Executor.Leaves flow flow' →
      flow'.lastRun.isSome → guarantee (.setLife id flow'.status flow'.lastRun))
    (hrun : ∀ flow, rely (.get id) (.ok (some flow)) →
      (x.run flow ctx).Meets rely guarantee fun _ => True) :
    (execute x id ctx).Meets rely guarantee fun _ => True := by
  rw [execute_eq]
  refine meets_bind (get_meets hget) fun flow hflow => ?_
  -- what follows is the same whether or not the flow has been marked as running
  have hlaunch : (launch x id flow ctx).Meets rely guarantee fun _ => True :=
    launch_meets (fun flow' => hend flow flow' hflow) (hrun flow hflow)
  split
  · next htrig =>
    exact meets_bind (P := fun _ => True)
      ⟨hstart flow hflow htrig, fun _ _ _ _ => trivial⟩ fun _ _ => hlaunch
  · exact hlaunch

/-- An execution asks for what its run asks for, and for the life of the flow to be stored. -/
theorem execute_meets {x : Executor} {ctx : Context} (hget : guarantee (.get id))
    (hlife : ∀ status lastRun, guarantee (.setLife id status lastRun))
    (hrun : ∀ flow, rely (.get id) (.ok (some flow)) →
      (x.run flow ctx).Meets rely guarantee fun _ => True) :
    (execute x id ctx).Meets rely guarantee fun _ => True :=
  execute_meets_lives hget (fun _ _ _ => hlife _ _) (fun _ _ _ _ _ => hlife _ _) hrun

end Contracts

/-! ### Taking an execution apart -/

/-- **An execution that is over**, with its transcript. -/
inductive Executed (x : Executor) (id : String) (ctx : Context) :
    Transcript → Except Fault Executor.Finished → Prop
  /-- No flow has been loaded. -/
  | notLoaded (found : Except Fault (Option Flow)) (h : ∀ flow, found ≠ .ok (some flow))
      (e : Fault) : Executed x id ctx [⟨.get id, found⟩] (.error e)
  /-- The flow could not be marked as running. -/
  | refused (flow : Flow) (h : flow.trigger?.isSome) (e : Fault) :
      Executed x id ctx
        [⟨.get id, .ok (some flow)⟩, ⟨.setLife id .running flow.lastRun, .error e⟩] (.error e)
  /-- The flow has been run.  Before and after, nothing has been stored but its life. -/
  | ran (flow : Flow) (before : Transcript) {t after : Transcript} {fin : Executor.Finished}
      (hbefore : ∀ e ∈ before, ∃ status lastRun, e.1 = .setLife id status lastRun)
      (hafter : ∀ e ∈ after, ∃ status lastRun, e.1 = .setLife id status lastRun)
      (hrun : Completes (x.run flow ctx) t fin) :
      Executed x id ctx (⟨.get id, .ok (some flow)⟩ :: (before ++ (t ++ after))) (.ok fin)

variable {x : Executor} {id : String} {ctx : Context} {t : Transcript}
  {r : Except Fault Executor.Finished}

theorem completes_get {r : Except Fault Flow} (h : Completes (get id).run t r) :
    ∃ found, t = [⟨.get id, found⟩] ∧
      ((∃ flow, found = .ok (some flow) ∧ r = .ok flow) ∨
        (∃ e, r = .error e) ∧ ∀ flow, found ≠ .ok (some flow)) := by
  obtain ⟨found, t', rfl, hrest⟩ := completes_ask_iff.mp h
  -- the only request is followed by no other
  match found with
  | .error e =>
    obtain ⟨rfl, rfl⟩ := completes_done_iff.mp hrest
    exact ⟨_, rfl, .inr ⟨⟨_, rfl⟩, nofun⟩⟩
  | .ok none =>
    obtain ⟨rfl, rfl⟩ := completes_done_iff.mp hrest
    exact ⟨_, rfl, .inr ⟨⟨_, rfl⟩, nofun⟩⟩
  | .ok (some flow) =>
    obtain ⟨rfl, rfl⟩ := completes_done_iff.mp hrest
    exact ⟨_, rfl, .inl ⟨flow, rfl, rfl⟩⟩

theorem completes_launch {flow : Flow} (h : Completes (launch x id flow ctx).run t r) :
    ∃ t₁ after fin, t = t₁ ++ after ∧ Completes (x.run flow ctx) t₁ fin ∧ r = .ok fin ∧
      ∀ e ∈ after, ∃ status lastRun, e.1 = .setLife id status lastRun := by
  rcases Attempt.completes_bind h with ⟨e, hrun, -⟩ | ⟨t₁, fin, after, rfl, hrun, hafter⟩
  · -- a run does not fail as an operation: its failure is in its record
    obtain ⟨fin, -, hr⟩ := Attempt.completes_lift hrun
    exact nomatch hr
  · obtain ⟨fin, hrun, hr⟩ := Attempt.completes_lift hrun
    obtain rfl := Except.ok.inj hr
    refine ⟨t₁, after, fin, rfl, hrun, ?_⟩
    -- the life is stored if there is a last run, and else nothing is left to do
    split at hafter
    · obtain ⟨stored, t₂, rfl, hdone⟩ := completes_ask_iff.mp hafter
      obtain ⟨rfl, rfl⟩ := completes_done_iff.mp hdone
      exact ⟨rfl, by simp⟩
    · obtain ⟨rfl, rfl⟩ := completes_done_iff.mp hafter
      exact ⟨rfl, by simp⟩

/-- **Every execution that is over** has run the flow that it loaded, or has failed before. -/
theorem execute_executed (h : Completes (execute x id ctx).run t r) : Executed x id ctx t r := by
  rw [execute_eq] at h
  rcases Attempt.completes_bind h with ⟨e, hget, rfl⟩ | ⟨tg, flow, t₁, rfl, hget, h₁⟩
  · obtain ⟨found, rfl, ⟨flow, -, hr⟩ | ⟨-, hfound⟩⟩ := completes_get hget
    · exact nomatch hr
    · exact .notLoaded found hfound e
  · obtain ⟨found, rfl, ⟨flow, rfl, hr⟩ | ⟨⟨e, hr⟩, -⟩⟩ := completes_get hget
    case inr => exact nomatch hr
    obtain rfl := Except.ok.inj hr
    -- only a flow with a trigger is marked as running, and this may be refused
    split at h₁
    · next htrig =>
      rcases Attempt.completes_bind h₁ with ⟨e, hlife, rfl⟩ | ⟨tl, u, t₂, rfl, hlife, h₂⟩
      · obtain ⟨stored, t₃, rfl, hdone⟩ := completes_ask_iff.mp hlife
        obtain ⟨rfl, rfl⟩ := completes_done_iff.mp hdone
        exact .refused flow htrig e
      · obtain ⟨stored, t₃, rfl, hdone⟩ := completes_ask_iff.mp hlife
        obtain ⟨rfl, rfl⟩ := completes_done_iff.mp hdone
        obtain ⟨t₄, after, fin, rfl, hrun, rfl, hafter⟩ := completes_launch h₂
        exact .ran flow [⟨.setLife id .running flow.lastRun, .ok u⟩] (by simp) hafter hrun
    · -- without a trigger the flow is run at once
      obtain ⟨t₄, after, fin, rfl, hrun, rfl, hafter⟩ := completes_launch h₁
      exact .ran flow [] (by simp) hafter hrun

/-- Storing the life of a flow is nothing that a transcript shows. -/
theorem filterMap_of_lives {α : Type} {f : Exchange Request.Answer → Option α} {t : Transcript}
    (h : ∀ e ∈ t, ∃ status lastRun, e.1 = .setLife id status lastRun)
    (hf : ∀ status lastRun a, f ⟨.setLife id status lastRun, a⟩ = none) : t.filterMap f = [] := by
  refine List.filterMap_eq_nil_iff.mpr fun ⟨q, a⟩ he => ?_
  obtain ⟨status, lastRun, rfl⟩ := h _ he
  exact hf status lastRun a

/-- An execution that has run its flow shows what the run shows, but for the flow being loaded and
its life being stored. -/
theorem filterMap_of_ran {α : Type} (f : Exchange Request.Answer → Option α) (flow : Flow)
    {before tr after : Transcript}
    (hbefore : ∀ e ∈ before, ∃ status lastRun, e.1 = .setLife id status lastRun)
    (hafter : ∀ e ∈ after, ∃ status lastRun, e.1 = .setLife id status lastRun)
    (hget : f ⟨.get id, .ok (some flow)⟩ = none)
    (hf : ∀ status lastRun a, f ⟨.setLife id status lastRun, a⟩ = none) :
    List.filterMap f (⟨.get id, .ok (some flow)⟩ :: (before ++ (tr ++ after)))
      = tr.filterMap f := by
  rw [List.filterMap_cons_none hget, List.filterMap_append, List.filterMap_append,
    filterMap_of_lives hbefore hf, filterMap_of_lives hafter hf, List.nil_append, List.append_nil]

/-- **What comes of an execution.**  If it fails, it leaves no record.  Otherwise it has run the flow
that it loaded first, looks at its cancellation where the run does, and leaves the record of the
run. -/
theorem Executed.outcome (h : Executed x id ctx t r) :
    ((∃ e, r = .error e) ∧ t.appended = []) ∨
      ∃ flow fin, ∃ tr : Transcript, r = .ok fin ∧ t.head? = some ⟨.get id, .ok (some flow)⟩ ∧
        Completes (x.run flow ctx) tr fin ∧ t.looks = tr.looks ∧ t.appended = [fin.record] := by
  cases h with
  | notLoaded found _ e => exact .inl ⟨⟨e, rfl⟩, rfl⟩
  | refused flow _ e => exact .inl ⟨⟨e, rfl⟩, rfl⟩
  | @ran flow before tr after fin hbefore hafter hrun =>
    refine .inr ⟨flow, fin, tr, rfl, rfl, hrun, ?_, ?_⟩
    · exact filterMap_of_ran Transcript.look? _ hbefore hafter rfl fun _ _ _ => rfl
    · rw [← (Executor.run_ran hrun).appended]
      exact filterMap_of_ran Transcript.record? _ hbefore hafter rfl fun _ _ _ => rfl

/-- The id of its record has been made before an execution publishes anything, or leaves the
record. -/
theorem Executed.made {fin : Executor.Finished} (h : Executed x id ctx t (.ok fin)) :
    ∃ t₁ t₂ : Transcript, t = t₁ ++ ⟨.freshRunId, fin.record.runId⟩ :: t₂ ∧
      t₁.published = [] ∧ t₁.appended = [] := by
  cases h with
  | @ran flow before tr after _ hbefore _ hrun =>
    obtain ⟨t', rfl⟩ := (Executor.run_ran hrun).made
    refine ⟨⟨.get id, .ok (some flow)⟩ :: before, t' ++ after, rfl, ?_, ?_⟩
    · have hnone := filterMap_of_lives (f := Transcript.event?) hbefore fun _ _ _ => rfl
      rwa [Transcript.published_cons]
    · have hnone := filterMap_of_lives (f := Transcript.record?) hbefore fun _ _ _ => rfl
      rwa [Transcript.appended_cons]

end Flows

end Flowgraph
