import Flowgraph.Proofs.Concurrent.System
import Flowgraph.Proofs.Store.Lives

/-!
# Flows that are left running

An execution marks its flow as running and stores another status at its end.  Whoever marks a flow
owes it this last status: `Interaction.Settles` says of what is left of an operation that, whatever it
is answered, it still stores a status other than running for the flow.  As long as every request to
change a flow is answered, each flow that is stored as running is owed its last status by a call
under way (`System.Accounted`).

There is one exception.  An execution of a flow without a trigger stores the status that it has
loaded, and if this is running, because another execution was under way when it was loaded, it is
stored even though that other one may have settled the flow in the meantime.  No other flow is left
running once no execution is under way (`System.left_running`), but such a flow may be
(`System.left_running_untriggered`).
-/

namespace Flowgraph

/-! ### What an operation still does -/

/-- Whoever asks for the life of a flow to be stored gets it stored. -/
def Request.Took : (q : Request) → q.Answer → Prop
  | .setLife _ _ _, stored => stored = .ok ()
  | _, _ => True

/-- A request that stores a flow as running, if at all, then one that is excused. -/
def Request.MarksOnly (excused : String → Prop) : Request → Prop
  | .insert f => f.status ≠ .running
  | .setLife id status _ => status = .running → excused id
  | _ => True

theorem Request.MarksOnly.mono {q : Request} {excused excused' : String → Prop}
    (h : q.MarksOnly excused) (himp : ∀ id, excused id → excused' id) : q.MarksOnly excused' := by
  cases q with
  | insert f => exact h
  | setLife id status lastRun => exact fun hrunning => himp id (h hrunning)
  | _ => trivial

namespace Interaction

variable {α β : Type} {id : String} {excused : String → Prop}

/-- **What is left of an operation settles a flow**: whatever it is answered, it stores a status other
than running for the flow, and it changes no flow before. -/
def Settles (id : String) : Operation α → Prop
  | .done _ => False
  | .ask q next =>
    (∃ status lastRun, q = .setLife id status lastRun ∧ status ≠ .running) ∨
      (¬ q.ChangesFlows ∧ ∀ a, Settles id (next a))

/-- **An operation is careful** if it settles every flow that it marks as running, but for those that
are excused. -/
def Careful (excused : String → Prop) : Operation α → Prop
  | .done _ => True
  | .ask q next =>
    (q.MarksOnly excused ∨
        ∃ id, (∃ lastRun, q = .setLife id .running lastRun) ∧ ∀ a, q.Took a → Settles id (next a)) ∧
      ∀ a, Careful excused (next a)

/-- An operation settles a flow if its second part does, and its first part changes none. -/
theorem settles_bind {o : Operation α} {f : α → Operation β} {promise : α → Prop}
    (ho : o.Meets (fun _ _ => True) (fun q => ¬ q.ChangesFlows) promise)
    (hf : ∀ a, promise a → (f a).Settles id) : Settles id (Interaction.bind o f) := by
  induction o with
  | done a => exact hf a ho
  | ask q next ih => exact .inr ⟨ho.1, fun a => ih a (ho.2 a trivial)⟩

/-- What settles a flow goes on to do so, whatever comes after. -/
theorem Settles.bind {o : Operation α} (ho : o.Settles id) (f : α → Operation β) :
    Settles id (Interaction.bind o f) := by
  induction o with
  | done a => exact ho.elim
  | ask q next ih =>
    rcases ho with hlast | ⟨hq, hnext⟩
    · exact .inl hlast
    · exact .inr ⟨hq, fun a => ih a (hnext a)⟩

/-- What settles a flow asks for its life to be stored. -/
theorem Settles.not_meets {o : Operation α} (ho : o.Settles id) {guarantee : Request → Prop}
    (hguarantee : ∀ status lastRun, ¬ guarantee (.setLife id status lastRun))
    {promise : α → Prop} : ¬ o.Meets (fun _ _ => True) guarantee promise := by
  induction o with
  | done a => exact ho.elim
  | ask q next ih =>
    intro hmeets
    rcases ho with ⟨status, lastRun, rfl, -⟩ | ⟨-, hnext⟩
    · exact hguarantee status lastRun hmeets.1
    · exact ih q.anyAnswer (hnext _) (hmeets.2 _ trivial)

theorem careful_of_meets {o : Operation α} {promise : α → Prop}
    (ho : o.Meets (fun _ _ => True) (Request.MarksOnly excused) promise) : o.Careful excused := by
  induction o with
  | done a => trivial
  | ask q next ih => exact ⟨.inl ho.1, fun a => ih a (ho.2 a trivial)⟩

theorem careful_bind {o : Operation α} {f : α → Operation β} (ho : o.Careful excused)
    (hf : ∀ a, (f a).Careful excused) : Careful excused (Interaction.bind o f) := by
  induction o with
  | done a => exact hf a
  | ask q next ih =>
    refine ⟨?_, fun a => ih a (ho.2 a)⟩
    rcases ho.1 with hq | ⟨id, hid, hnext⟩
    · exact .inl hq
    · exact .inr ⟨id, hid, fun a ha => (hnext a ha).bind f⟩

/-- What is left of a careful operation is careful. -/
theorem Careful.after {o rest : Operation α} {t : Transcript} (ho : o.Careful excused)
    (h : o.After t rest) : rest.Careful excused := by
  induction h with
  | nil o => exact ho
  | cons _ ih => exact ih (ho.2 _)

end Interaction

open Interaction (Settles Careful)

/-! ### Executions -/

/-- **What has been loaded is a flow that was running and has no trigger**, though it has been run
before. -/
def LoadsUntriggered (found : Except Fault (Option Flow)) : Prop :=
  ∃ flow, found = .ok (some flow) ∧ flow.status = .running ∧ flow.trigger? = none ∧
    flow.lastRun.isSome

namespace Flows

variable {x : Executor} {id : String} {ctx : Context} {flow : Flow}

/-- A run changes no flow. -/
theorem run_keeps_flows (x : Executor) (flow : Flow) (ctx : Context) :
    (x.run flow ctx).Meets (fun _ _ => True) (fun q => ¬ q.ChangesFlows) fun _ => True :=
  Executor.run_meets_of x flow ctx fun _ => Executor.not_changesFlows_of_runAsks

theorem marksOnly_of_keeps {q : Request} {excused : String → Prop} (h : ¬ q.ChangesFlows) :
    q.MarksOnly excused := by
  cases q <;> first | exact trivial | exact absurd trivial h

/-- **An execution that runs a flow with a trigger settles it.** -/
theorem launch_settles (htrig : flow.trigger?.isSome) :
    (launch x id flow ctx).run.Settles id := by
  rw [launch_run]
  refine Interaction.settles_bind ((run_keeps_flows x flow ctx).of_completes
    fun _ _ h => (Executor.run_ran h).leaves) fun fin hfin => ?_
  -- the flow has a trigger, so the run leaves it active or in error, with a last run
  generalize hflow : fin.flow = flow' at hfin
  cases hfin with
  | idle hnone =>
    rw [hnone] at htrig
    exact absurd htrig Bool.false_ne_true
  | ended _ success startedAt =>
    have hlast : (flow.withLife (if success then .active else .error)
        (some startedAt)).lastRun.isSome = true := rfl
    rw [if_pos hlast]
    refine .inl ⟨_, _, rfl, ?_⟩
    cases success <;> exact nofun

/-- **What an execution does once it has loaded a flow**: it is careful, but for the flow itself if
that was loaded as running and has no trigger. -/
theorem resume_careful (found : Except Fault (Option Flow)) :
    (resume x id ctx found).run.Careful fun id' => id' = id ∧ LoadsUntriggered found := by
  match found with
  | .error e => trivial
  | .ok none => trivial
  | .ok (some flow) =>
    -- apart from marking the flow, an execution stores what the run leaves
    have hlaunch : (launch x id flow ctx).run.Careful fun id' =>
        id' = id ∧ LoadsUntriggered (.ok (some flow)) := by
      refine Interaction.careful_of_meets (launch_meets (fun flow' hleaves hlast => ?_)
        (Executor.run_meets_of x flow ctx fun _ h =>
          marksOnly_of_keeps (Executor.not_changesFlows_of_runAsks h)))
      intro hrunning
      cases hleaves with
      | idle hnone => exact ⟨rfl, flow, rfl, hrunning, hnone, hlast⟩
      | ended _ success _ => cases success <;> exact nomatch hrunning
    cases htrig : flow.trigger? with
    | none =>
      rw [resume_of_no_trigger htrig]
      exact hlaunch
    | some v =>
      have hsome : flow.trigger?.isSome := by rw [htrig]; rfl
      rw [resume_of_trigger hsome]
      -- to mark the flow is to owe it another status, which the run and its end then settle
      refine ⟨.inr ⟨id, ⟨flow.lastRun, rfl⟩, ?_⟩, ?_⟩
      · rintro _ rfl
        exact launch_settles hsome
      · intro stored
        cases stored with
        | error e => trivial
        | ok _ => exact hlaunch

end Flows

/-! ### Calls -/

/-- **An execution that has loaded a flow which was running and has no trigger**, though it has been
run before. -/
def Task.LoadedUntriggered (t : Task) (id : String) : Prop :=
  (∃ x ctx, t.call = .execute x id ctx) ∧
    ∃ found, t.past.head? = some ⟨.get id, found⟩ ∧ LoadsUntriggered found

/-- No call but an execution asks for a life to be stored. -/
theorem Call.operation_stores_no_life {call : Call} (h : ∀ x id ctx, call ≠ .execute x id ctx) :
    call.operation.Meets (fun _ _ => True) (fun q => (∀ id status lastRun,
      q ≠ .setLife id status lastRun) ∧ q.MarksOnly fun _ => False) fun _ => True := by
  refine call.operation_meets_of fun q hq => ?_
  cases hq with
  | created | imported => exact ⟨nofun, nofun⟩
  | marked | ended | ran => exact absurd rfl (h _ _ _)
  | _ => exact ⟨nofun, trivial⟩

theorem Call.execute_operation (x : Executor) (id : String) (ctx : Context) :
    (Call.execute x id ctx).operation = .ask (.get id) fun found =>
      Interaction.bind (Flows.resume x id ctx found).run fun r => .done (r.map .finished) := by
  show Interaction.bind (Flows.execute x id ctx).run _ = _
  rw [Flows.execute_run]
  rfl

namespace Task

variable {t : Task} {q : Request} {next : q.Answer → Operation (Except Fault Reply)} {id : String}

/-- **A call that marks a flow as running goes on to settle it**, unless it has loaded the flow as
running and without a trigger. -/
theorem Sound.careful (ht : t.Sound) (hrest : t.rest = .ask q next) :
    q.MarksOnly t.LoadedUntriggered ∨
      ∃ id, (∃ lastRun, q = .setLife id .running lastRun) ∧
        ∀ a, q.Took a → (next a).Settles id := by
  have hafter := ht.after
  rw [hrest] at hafter
  by_cases hexec : ∃ x id ctx, t.call = .execute x id ctx
  · obtain ⟨x, id, ctx, hcall⟩ := hexec
    rw [hcall, Call.execute_operation] at hafter
    rcases Interaction.after_ask_iff.mp hafter with ⟨-, hask⟩ | ⟨found, past, hpast, hafter⟩
    · -- nothing has been asked for yet, and the first request is to load the flow
      obtain ⟨rfl, -⟩ := Interaction.ask.inj hask
      exact .inl trivial
    · -- once the flow is loaded, what is left of the execution handles its status with care
      have hcareful : Careful (fun id' => id' = id ∧ LoadsUntriggered found)
          (Interaction.bind (Flows.resume x id ctx found).run
            fun r => .done (r.map Reply.finished)) :=
        Interaction.careful_bind (Flows.resume_careful found) fun _ => trivial
      rcases (hcareful.after hafter).1 with hq | hq
      · refine .inl (hq.mono ?_)
        rintro _ ⟨rfl, hfound⟩
        exact ⟨⟨x, ctx, hcall⟩, found, by rw [hpast]; rfl, hfound⟩
      · exact .inr hq
  · -- no other call stores a life
    have hmeets := (Call.operation_stores_no_life fun x id ctx h => hexec ⟨x, id, ctx, h⟩).after
      hafter fun _ _ => trivial
    exact .inl (hmeets.1.2.mono fun _ h => h.elim)

/-- A call that has loaded such a flow has done so for good. -/
theorem LoadedUntriggered.answered (h : t.LoadedUntriggered id) (q : Request) (a : q.Answer)
    (next : q.Answer → Operation (Except Fault Reply)) :
    (t.answered q a next).LoadedUntriggered id := by
  obtain ⟨hcall, found, hhead, hfound⟩ := h
  refine ⟨hcall, found, ?_, hfound⟩
  show (t.past ++ _).head? = _
  rw [List.head?_append, hhead]
  rfl

/-- **A call is under way with the flows** if it has asked the store for a flow, and may ask it
again. -/
def UnderWay (t : Task) : Prop :=
  (∃ e ∈ t.past, e.1.ReachesFlows) ∧
    ¬ t.rest.Meets (fun _ _ => True) (fun q => ¬ q.ReachesFlows) fun _ => True

/-- Nothing is left of a call. -/
def isOver : Task → Bool
  | ⟨_, _, _, .done _⟩ => true
  | _ => false

/-- A call that is over is not under way. -/
theorem not_underWay_of_isOver {t : Task} (h : t.isOver = true) : ¬ t.UnderWay := by
  rintro ⟨-, hasks⟩
  obtain ⟨call, isCancelled, past, rest⟩ := t
  cases rest with
  | done r => exact hasks trivial
  | ask q next => exact nomatch h

/-- **What settles a flow is an execution under way.** -/
theorem Sound.underWay_of_settles (ht : t.Sound) (h : t.rest.Settles id) :
    (∃ x id ctx, t.call = .execute x id ctx) ∧ t.UnderWay := by
  have hafter := ht.after
  by_cases hexec : ∃ x id ctx, t.call = .execute x id ctx
  · refine ⟨hexec, ?_, h.not_meets fun _ _ hreach => hreach trivial⟩
    obtain ⟨x, id, ctx, hcall⟩ := hexec
    rw [hcall, Call.execute_operation] at hafter
    rcases Interaction.after_ask_iff.mp hafter with ⟨-, hask⟩ | ⟨found, past, hpast, -⟩
    · -- an execution that has not begun may end at once, when there is no such flow
      rw [hask] at h
      rcases h with ⟨_, _, hlife, -⟩ | ⟨-, hnext⟩
      · exact nomatch hlife
      · exact (hnext (.ok none)).elim
    · exact ⟨⟨.get id, found⟩, by rw [hpast]; exact List.mem_cons_self .., trivial⟩
  · -- what stores no life settles nothing
    have hmeets := (Call.operation_stores_no_life fun x id ctx h => hexec ⟨x, id, ctx, h⟩).after
      hafter fun _ _ => trivial
    exact absurd hmeets (h.not_meets fun _ _ hlife => hlife.1 _ _ _ rfl)

end Task

/-! ### Flows that are marked as running -/

/-- **Only the calls change the store**, and it takes every change of a flow. -/
def Rules.steady : Rules := ⟨fun w w' => w'.store = w.store, fun q => ¬ q.ChangesFlows⟩

/-- A flow that is running after a request was stored as running by it, or has been running
before and is not given another status. -/
theorem Request.running_onLives {q : Request} {lives : List Life} {l : Life}
    (h : l ∈ q.onLives lives) (hrunning : l.status = Status.running.text) :
    (∃ f : Flow, q = .insert f ∧ f.status = .running) ∨
      (∃ lastRun, q = .setLife l.id .running lastRun) ∨
      (l ∈ lives ∧ ∀ status lastRun, q ≠ .setLife l.id status lastRun) := by
  rcases Request.mem_onLives h with ⟨f, hq, rfl⟩ | ⟨status, lastRun, hq, hstatus, -⟩ | hold
  · exact .inl ⟨f, hq, Status.text_injective hrunning⟩
  · have hstored : status = .running := Status.text_injective (hstatus.symm.trans hrunning)
    rw [hstored] at hq
    exact .inr (.inl ⟨lastRun, hq⟩)
  · exact .inr (.inr hold)

namespace System

variable {s s' : System} {id : String}

/-- **A flow is owed another status** by a call that settles it, or by one that has loaded it as
running and without a trigger. -/
def Owes (s : System) (id : String) : Prop :=
  ∃ t ∈ s.tasks, t.rest.Settles id ∨ t.LoadedUntriggered id

/-- **Every flow that is stored as running is accounted for.** -/
structure Accounted (s : System) : Prop where
  orderly : s.world.store.Orderly
  owes : ∀ l ∈ s.world.store.lives, l.status = Status.running.text → s.Owes l.id

/-- What a call owes that takes no step is owed as before. -/
theorem Owes.set {i : Nat} {t t' : Task} {w : World} (h : s.Owes id)
    (hi : s.tasks[i]? = some t)
    (ht : t.rest.Settles id ∨ t.LoadedUntriggered id →
      t'.rest.Settles id ∨ t'.LoadedUntriggered id) : Owes ⟨w, s.tasks.set i t'⟩ id :=
  exists_mem_set hi ht h

/-- **A request that is answered keeps every running flow accounted for.** -/
theorem Accounted.exchange (hs : s.Accounted) {i : Nat} {t : Task} (hi : s.tasks[i]? = some t)
    (ht : t.Sound) {q : Request} {next : q.Answer → Operation (Except Fault Reply)}
    (hrest : t.rest = .ask q next) :
    Accounted ⟨(s.world.answer t.isCancelled q).2,
      s.tasks.set i (t.answered q (s.world.answer t.isCancelled q).1 next)⟩ := by
  refine ⟨World.answer_orderly hs.orderly _ q, fun l hl hrunning => ?_⟩
  generalize hans : s.world.answer t.isCancelled q = answer at hl ⊢
  have hlives : l ∈ q.onLives s.world.store.lives := by
    rw [← World.lives_answer hs.orderly t.isCancelled q, hans]
    exact hl
  obtain ⟨hlt, -⟩ := List.getElem?_eq_some_iff.mp hi
  -- a debt that comes about here is this call's own
  have hmem : t.answered q answer.1 next ∈ s.tasks.set i (t.answered q answer.1 next) :=
    List.mem_of_getElem? (List.getElem?_set_self hlt)
  rcases Request.running_onLives hlives hrunning with ⟨f, rfl, hf⟩ | ⟨lastRun, rfl⟩ | ⟨hold, hnot⟩
  · -- no call inserts a flow that is running
    rcases ht.careful hrest with hq | ⟨_, ⟨_, hq⟩, -⟩
    · exact absurd hf hq
    · exact nomatch hq
  · -- the call has marked the flow, and so it is the one that owes
    refine ⟨_, hmem, ?_⟩
    rcases ht.careful hrest with hq | ⟨id, ⟨lastRun', hq⟩, hsettles⟩
    · exact .inr ((hq rfl).answered ..)
    · obtain ⟨rfl, -, -⟩ := Request.setLife.inj hq
      refine .inl (hsettles _ ?_)
      rw [← hans]
      exact hs.orderly.setLife_took ..
  · -- the flow has been running before, and whoever owes it another status has not paid
    refine (hs.owes l hold hrunning).set hi fun howes => ?_
    rcases howes with hsettles | hloaded
    · rw [hrest] at hsettles
      rcases hsettles with ⟨status, lastRun, hq, -⟩ | ⟨-, hnext⟩
      · exact absurd hq (hnot status lastRun)
      · exact .inl (hnext _)
    · exact .inr (hloaded.answered ..)

/-- **Every step keeps every running flow accounted for.** -/
theorem Accounted.step (hs : s.Accounted) (hsound : ∀ t ∈ s.tasks, t.Sound)
    (h : Step .steady s s') : s'.Accounted := by
  cases h with
  | call call =>
    refine ⟨hs.orderly, fun l hl hrunning => ?_⟩
    -- a new call owes nothing, and the others owe what they did
    obtain ⟨t, ht, howes⟩ := hs.owes l hl hrunning
    exact ⟨t, List.mem_append_left _ ht, howes⟩
  | cancel hi => exact ⟨hs.orderly, fun l hl hrunning => (hs.owes l hl hrunning).set hi id⟩
  | @exchange i t hi q next hrest a w ha =>
    have ht := hsound t (List.mem_of_getElem? hi)
    -- a request that is not answered by the store changes no flow, and settles none
    have hother : ¬ q.ChangesFlows →
        Accounted ⟨s.world, s.tasks.set i (t.answered q a next)⟩ := by
      intro hq
      refine ⟨hs.orderly, fun l hl hrunning => (hs.owes l hl hrunning).set hi fun howes => ?_⟩
      rcases howes with hsettles | hloaded
      · rw [hrest] at hsettles
        rcases hsettles with ⟨status, lastRun, rfl, -⟩ | ⟨-, hnext⟩
        · exact absurd trivial hq
        · exact .inl (hnext a)
      · exact .inr (hloaded.answered ..)
    cases ha with
    | answered => exact hs.exchange hi ht hrest
    | elapsed n => exact hother id
    | refused _ hq _ _ _ => exact hother hq
  | change hw =>
    have hstore : _ = s.world.store := hw
    refine ⟨hstore ▸ hs.orderly, fun l hl hrunning => ?_⟩
    rw [hstore] at hl
    exact hs.owes l hl hrunning

theorem Reaches.accounted {w : World} (hw : w.store.Orderly)
    (hstart : ∀ l ∈ w.store.lives, l.status ≠ Status.running.text)
    (hs : Reaches .steady (.idle w) s) : s.Accounted := by
  induction hs with
  | refl => exact ⟨hw, fun l hl hrunning => absurd hrunning (hstart l hl)⟩
  | tail hreach hstep ih => exact ih.step (fun t ht => System.Reaches.sound hreach ht) hstep

/-- **Which flows are left running.**  Begin with a store in which no flow is running, let any calls
come in at any time, and each of their requests to the store be answered at one moment.  Whenever no
execution is under way, a flow is stored as running only if an execution has loaded it while it was
running, though it had no trigger any more. -/
theorem left_running {w : World} (hw : w.store.Orderly)
    (hstart : ∀ l ∈ w.store.lives, l.status ≠ Status.running.text)
    (hs : Reaches .steady (.idle w) s)
    (hrest : ∀ t ∈ s.tasks, (∃ x id ctx, t.call = .execute x id ctx) → ¬ t.UnderWay) :
    ∀ l ∈ s.world.store.lives, l.status = Status.running.text →
      ∃ t ∈ s.tasks, t.LoadedUntriggered l.id := by
  intro l hl hrunning
  -- the flow is owed its last status, and nobody is left who could settle it
  obtain ⟨t, ht, hsettles | hloaded⟩ := (Reaches.accounted hw hstart hs).owes l hl hrunning
  · obtain ⟨hexec, hway⟩ := (System.Reaches.sound hs ht).underWay_of_settles hsettles
    exact absurd hway (hrest t ht hexec)
  · exact ⟨t, ht, hloaded⟩

/-- Two executions of a flow, the second one without its trigger: it loads the flow while the first
one is under way, and stores what it has loaded after that one has come to its end. -/
def triggerLostMidway : List Move :=
  let loop : Flow :=
    .fresh "loop" "Loop" "" ⟨[⟨"start", "trigger", Json.empty, .origin⟩],
      [⟨"back", "start", "start", none, none⟩]⟩ ⟨0, 0⟩
  let run : Call := .execute ⟨.empty, 1⟩ "loop" ⟨.str "payload", []⟩
  let untrigger : Call := .update "loop" ⟨none, none, some [], some []⟩
  -- without an earlier run, the second execution would not store anything
  [.call (.importFlow loop), .go 0, .call run] ++ List.replicate 14 (.go 1)
    ++ [.call run, .go 2, .go 2, .call untrigger] ++ List.replicate 3 (.go 3)
    ++ [.call run, .go 4] ++ List.replicate 12 (.go 2) ++ List.replicate 6 (.go 4)

/-- All the calls come to an end, and the flow is stored as running then. -/
theorem triggerLostMidway_ends :
    ∃ s, (idle (.start (.memory .empty) ⟨0, 0⟩)).play? triggerLostMidway = some s ∧
      (∀ t ∈ s.tasks, ¬ t.UnderWay) ∧
      s.world.store.lives = [⟨"loop", Status.running.text, some (Instant.rowText ⟨0, 0⟩)⟩] := by
  have hends : ((idle (.start (.memory .empty) ⟨0, 0⟩)).play? triggerLostMidway).map (fun s =>
      (s.tasks.all Task.isOver, s.world.store.lives))
      = some (true, [⟨"loop", Status.running.text, some (Instant.rowText ⟨0, 0⟩)⟩]) := by rfl
  obtain ⟨s, hs, hs'⟩ := Option.map_eq_some_iff.mp hends
  obtain ⟨hdone, hlives⟩ := Prod.mk.inj hs'
  exact ⟨s, hs, fun t ht => Task.not_underWay_of_isOver (List.all_eq_true.mp hdone t ht), hlives⟩

/-- The flow that is left running has been loaded, while it was running, without a trigger. -/
theorem left_running_triggerLostMidway :
    ∃ s, (idle (.start (.memory .empty) ⟨0, 0⟩)).play? triggerLostMidway = some s ∧
      (∀ t ∈ s.tasks, ¬ t.UnderWay) ∧ ∃ t ∈ s.tasks, t.LoadedUntriggered "loop" := by
  obtain ⟨s, hs, hover, hlives⟩ := triggerLostMidway_ends
  have hloaded := left_running Store.orderly_empty_memory (fun _ hl => absurd hl List.not_mem_nil)
    (reaches_of_play? hs) (fun t ht _ => hover t ht)
    ⟨"loop", Status.running.text, some (Instant.rowText ⟨0, 0⟩)⟩
    (by rw [hlives]; exact List.mem_cons_self ..) rfl
  exact ⟨s, hs, hover, hloaded⟩

/-- **It is not so that no flow is left running** whenever no execution is under way. -/
theorem left_running_untriggered :
    ¬ ∀ w : World, w.store.Orderly → (∀ l ∈ w.store.lives, l.status ≠ Status.running.text) →
      ∀ s, Reaches .steady (.idle w) s →
        (∀ t ∈ s.tasks, (∃ x id ctx, t.call = .execute x id ctx) → ¬ t.UnderWay) →
          ∀ l ∈ s.world.store.lives, l.status ≠ Status.running.text := by
  intro hnone
  obtain ⟨s, hs, hover, hlives⟩ := triggerLostMidway_ends
  refine hnone _ Store.orderly_empty_memory (fun _ hl => absurd hl List.not_mem_nil) s
    (reaches_of_play? hs) (fun t ht _ => hover t ht)
    ⟨"loop", Status.running.text, some (Instant.rowText ⟨0, 0⟩)⟩ ?_ rfl
  rw [hlives]
  exact List.mem_cons_self ..

end System

end Flowgraph
