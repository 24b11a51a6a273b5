import Flowgraph.Proofs.Concurrent.Lives
import Flowgraph.Proofs.Concurrent.Running

/-!
# Flows under an id that is used again

A flow is deleted, and another one is stored under its id.  Executions go by the id, and one that has
loaded the flow before may still be under way: at its end it stores the life of that flow for whatever
is stored under the id then (`System.life_of_reused_id_inherited`).

This is the only way in which a flow gets a life that is not its own.  From the moment at which a flow
is stored, as long as it stays (`System.Stays`), it has the life of a flow that has never been run, or
a life that an execution has stored since then for the flow that it had loaded
(`System.life_of_reused_id`).  That is the flow itself if the execution has begun since, and an earlier
one under the id only if the execution was under way at that moment.

The invariant is about the life and the calls together: `System.Stored` names the execution that has
stored it.  That this was since some moment is read off the transcript of the execution, which is
longer than it was at that moment (`System.Reaches.past_prefix`).
-/

namespace Flowgraph

/-! ### What executions store -/

/-- **A life that is stored for a flow that has been loaded**: it is running now, or a run of it has
left it so. -/
inductive Flow.Gets (flow : Flow) : Status → Option Instant → Prop
  | marked : flow.Gets .running flow.lastRun
  | left {flow' : Flow} (h : Executor.Leaves flow flow') : flow.Gets flow'.status flow'.lastRun

/-- A request stores no life but one for the flow of an id, as it has been found. -/
def Request.StoresFor (id : String) (found : Except Fault (Option Flow)) : Request → Prop
  | .setLife other status lastRun =>
    other = id ∧ ∃ flow, found = .ok (some flow) ∧ flow.Gets status lastRun
  | _ => True

/-- A request stores no flow but one that has never been run. -/
def Request.InsertsFresh : Request → Prop
  | .insert f => f.status = .inactive ∧ f.lastRun = none
  | _ => True

/-- Once it has loaded a flow, an execution stores lives for this flow only. -/
theorem Flows.resume_storesFor (x : Executor) (id : String) (ctx : Context)
    (found : Except Fault (Option Flow)) : (resume x id ctx found).run.Meets (fun _ _ => True)
      (Request.StoresFor id found) fun _ => True := by
  match found with
  | .error e => exact trivial
  | .ok none => exact trivial
  | .ok (some flow) =>
    have hrun : (x.run flow ctx).Meets (fun _ _ => True)
        (Request.StoresFor id (.ok (some flow))) fun _ => True := by
      refine Executor.run_meets_of x flow ctx fun q hq => ?_
      cases q <;> first | exact trivial | exact absurd hq fun h => h
    -- at its end an execution stores what the run has left
    have hlaunch : (launch x id flow ctx).run.Meets (fun _ _ => True)
        (Request.StoresFor id (.ok (some flow))) fun _ => True := by
      refine (launch_meets (fun flow' hleaves _ => ?_) hrun).mono (fun _ _ h => h) (fun _ h => h)
        fun _ _ => trivial
      exact ⟨rfl, flow, rfl, .left hleaves⟩
    cases htrig : flow.trigger? with
    | none =>
      rw [resume_of_no_trigger htrig]
      exact hlaunch
    | some v =>
      have hsome : flow.trigger?.isSome := by rw [htrig]; rfl
      rw [resume_of_trigger hsome]
      refine ⟨⟨rfl, flow, rfl, .marked⟩, fun stored _ => ?_⟩
      cases stored with
      | error e => exact trivial
      | ok _ => exact hlaunch

/-- **A flow that comes in has never been run.** -/
theorem Call.operation_inserts_fresh (call : Call) :
    call.operation.Meets (fun _ _ => True) Request.InsertsFresh fun _ => True := by
  refine call.operation_meets_of fun q hq => ?_
  cases hq with
  | created | imported => exact ⟨rfl, rfl⟩
  | ran hq => cases q <;> first | exact trivial | exact absurd hq fun h => h
  | _ => trivial

namespace Task

variable {t : Task} {id : String} {status : Status} {lastRun : Option Instant}

/-- **Who has stored a life** is an execution, and it has stored one for the flow that it has
loaded. -/
theorem Sound.stored (ht : t.Sound) {a : (Request.setLife id status lastRun).Answer}
    (hstored : ⟨.setLife id status lastRun, a⟩ ∈ t.past) :
    ∃ x ctx flow, t.call = .execute x id ctx ∧
      t.past.head? = some ⟨.get id, .ok (some flow)⟩ ∧ flow.Gets status lastRun := by
  have hafter := ht.after
  by_cases hexec : ∃ x id ctx, t.call = .execute x id ctx
  · obtain ⟨x, other, ctx, hcall⟩ := hexec
    rw [hcall, Call.execute_operation] at hafter
    rcases Interaction.after_ask_iff.mp hafter with ⟨hnil, -⟩ | ⟨found, past, hpast, hafter⟩
    · rw [hnil] at hstored
      exact absurd hstored List.not_mem_nil
    · -- the life has been stored after the flow has been loaded
      rw [hpast] at hstored ⊢
      have hlater := (List.mem_cons.mp hstored).resolve_left nofun
      -- all that an execution stores then is a life for the flow that it has loaded
      have hmeets : (Interaction.bind (Flows.resume x other ctx found).run
          fun r => .done (r.map Reply.finished)).Meets (fun _ _ => True)
          (Request.StoresFor other found) fun _ => True :=
        Interaction.Meets.bind (Flows.resume_storesFor x other ctx found) fun _ _ => trivial
      obtain ⟨rfl, flow, rfl, hgets⟩ := hmeets.requests hafter (fun _ _ => trivial) _ hlater
      exact ⟨x, ctx, flow, hcall, rfl, hgets⟩
  · -- no other call stores a life
    have hnone := (Call.operation_stores_no_life fun x id ctx h => hexec ⟨x, id, ctx, h⟩).requests
      hafter (fun _ _ => trivial) _ hstored
    exact absurd rfl (hnone.1 id status lastRun)

/-- What a call is about to store as a new flow has never been run. -/
theorem Sound.inserts_fresh (ht : t.Sound) {f : Flow}
    {next : (Request.insert f).Answer → Operation (Except Fault Reply)}
    (hrest : t.rest = .ask (.insert f) next) : f.status = .inactive ∧ f.lastRun = none := by
  have hafter := ht.after
  rw [hrest] at hafter
  exact ((Call.operation_inserts_fresh t.call).after hafter fun _ _ => trivial).1

end Task

namespace System

/-! ### Calls that go on -/

variable {rules : Rules} {s s' s₀ s₁ s₂ : System} {i : Nat} {w : World} {id : String}

/-- **A call begins with a flow that it loads** from what is stored at that moment. -/
theorem Step.loads (h : Step rules s s') {found : Except Fault (Option Flow)}
    (hload : (s'.past i).head? = some ⟨.get id, found⟩) :
    (s.past i).head? = some ⟨.get id, found⟩ ∨
      (s.past i = [] ∧ found = s.world.store.get id) := by
  rcases h.past_cases with ⟨-, hsame⟩ | ⟨j, t, q, next, a, -, -, ha, hmore, hothers⟩
  · rw [hsame] at hload
    exact .inl hload
  · by_cases hij : i = j
    · subst hij
      rw [hmore] at hload
      cases hpast : s.past i with
      | nil =>
        rw [hpast] at hload
        cases hload
        exact .inr ⟨rfl, ha.get_inv.2⟩
      -- what a call has begun with stays
      | cons e rest =>
        rw [hpast] at hload
        exact .inl hload
    · rw [hothers i hij] at hload
      exact .inl hload

/-! ### Lives in a step -/

theorem Reaches.orderly (hw : w.store.Orderly) (hs : Reaches .closed (.idle w) s) :
    s.world.store.Orderly := by
  have hkeeps : Rules.closed.Preserves (fun w => w.store.Orderly) fun _ => True :=
    Rules.closed_preserves (fun _ _ hsame h => hsame ▸ h)
      fun _ cancelled q h => World.answer_orderly h cancelled q
  exact (hkeeps.reached hw hs).1

/-- **Where a life comes from** that is there after a step: it has been there before, or a call has
inserted the flow with it, or a call has stored it for the flow of its id. -/
theorem Step.mem_lives (h : Step .closed s s') (hs : s.world.store.Orderly) {l : Life}
    (hl : l ∈ s'.world.store.lives) :
    l ∈ s.world.store.lives ∨
      (∃ t ∈ s.tasks, ∃ f next, t.rest = .ask (.insert f) next ∧ l = .ofFlow f) ∨
      ∃ i t status lastRun next, s.tasks[i]? = some t ∧
        t.rest = .ask (.setLife l.id status lastRun) next ∧
        s'.past i = s.past i ++ [⟨.setLife l.id status lastRun, .ok ()⟩] ∧
        l.id ∈ s.world.store.lives.map (·.id) ∧
        l = ⟨l.id, status.text, lastRun.map Instant.rowText⟩ := by
  rcases h.past_cases with ⟨hworld, -⟩ | ⟨i, t, q, next, a, hi, hrest, ha, hpast, -⟩
  · have hstore : s'.world.store = s.world.store := hworld.elim (congrArg World.store) fun h => h
    rw [hstore] at hl
    exact .inl hl
  · -- the store has answered, or has been left as it is
    generalize s'.world = w' at ha hl
    cases ha with
    | elapsed | refused => exact .inl hl
    | answered =>
      rw [World.lives_answer hs] at hl
      rcases Request.mem_onLives hl with ⟨f, rfl, rfl⟩ | ⟨status, lastRun, hq, hstatus, hlast⟩ | ⟨hold, -⟩
      · exact .inr (.inl ⟨t, List.mem_of_getElem? hi, f, next, hrest, rfl⟩)
      · -- the life has been stored in the place of another one of its id
        generalize hid : l.id = id at hq
        subst hq
        have hids : l.id ∈ s.world.store.lives.map (·.id) := by
          obtain ⟨old, hold, rfl⟩ := List.mem_map.mp hl
          rw [Life.renew_id]
          exact List.mem_map_of_mem hold
        refine .inr (.inr ⟨i, t, status, lastRun, next, hi, hrest, ?_, hid ▸ hids, ?_⟩)
        · rw [hpast, ← hs.setLife_took id status lastRun]
          rfl
        · rw [← hid, ← hstatus, ← hlast]
      · exact .inl hold

theorem Reaches.callAt_eq (h : Reaches rules s s') {call : Call}
    (hcall : s.callAt i = some call) : s'.callAt i = some call := by
  induction h with
  | refl => exact hcall
  | tail _ hstep ih => exact hstep.callAt_eq ih

theorem Reaches.past_prefix (h : Reaches rules s s') (i : Nat) : s.past i <+: s'.past i := by
  induction h with
  | refl => exact List.prefix_refl _
  | tail _ hstep ih => exact ih.trans (hstep.past_prefix i)

/-! ### Flows that stay -/

/-- A flow is stored under an id. -/
def Holds (s : System) (id : String) : Prop := id ∈ s.world.store.lives.map (·.id)

instance (s : System) (id : String) : Decidable (s.Holds id) :=
  inferInstanceAs (Decidable (id ∈ s.world.store.lives.map (·.id)))

/-- **A flow stays**: some steps, after each of which there is one under its id.  To store another one
in its place takes two, and there is none in between. -/
abbrev Stays (rules : Rules) (id : String) : System → System → Prop :=
  Relation.ReflTransGen fun s s' => Step rules s s' ∧ s'.Holds id

theorem Stays.reaches (h : Stays rules id s s') : Reaches rules s s' :=
  Relation.ReflTransGen.mono (fun _ _ h => h.1) _ _ h

theorem Stays.holds (h : Stays rules id s s') (hs : s.Holds id) : s'.Holds id := by
  cases h with
  | refl => exact hs
  | tail _ hstep => exact hstep.2

/-- **An execution has stored a life since an earlier state**, for a flow that it has loaded. -/
structure Stored (s₀ s : System) (i : Nat) (flow : Flow) (l : Life) : Prop where
  call : ∃ x ctx, s.callAt i = some (.execute x l.id ctx)
  loaded : (s.past i).head? = some ⟨.get l.id, .ok (some flow)⟩
  stored : ∃ new status lastRun, s.past i = s₀.past i ++ new ∧
    ⟨.setLife l.id status lastRun, .ok ()⟩ ∈ new ∧ flow.Gets status lastRun ∧
    l = ⟨l.id, status.text, lastRun.map Instant.rowText⟩

/-- What has been stored has been stored. -/
theorem Stored.step {flow : Flow} {l : Life} (hl : Stored s₀ s i flow l) (h : Step rules s s') :
    Stored s₀ s' i flow l := by
  obtain ⟨x, ctx, hcall⟩ := hl.call
  obtain ⟨new, status, lastRun, hpast, hstored, hgets, heq⟩ := hl.stored
  obtain ⟨more, hmore⟩ := h.past_prefix i
  refine ⟨⟨x, ctx, h.callAt_eq hcall⟩, ?_, new ++ more, status, lastRun, ?_,
    List.mem_append_left _ hstored, hgets, heq⟩
  · rw [← hmore, List.head?_append, hl.loaded]
    rfl
  · rw [← hmore, hpast, List.append_assoc]

/-- **An execution is under way** with a flow that it has loaded. -/
def UnderWay (s : System) (i : Nat) (id : String) (flow : Flow) : Prop :=
  ∃ t, s.tasks[i]? = some t ∧ (∃ x ctx, t.call = .execute x id ctx) ∧
    t.past.head? = some ⟨.get id, .ok (some flow)⟩ ∧ t.isOver = false

/-- **Who has stored a life since a state, and had begun before, was under way then.** -/
theorem Stored.underWay (hsound₀ : ∀ t ∈ s₀.tasks, t.Sound) (hsound : ∀ t ∈ s.tasks, t.Sound)
    (h : Reaches rules s₀ s) {flow : Flow} {l : Life} (hl : Stored s₀ s i flow l)
    (hbegun : s₀.past i ≠ []) : s₀.UnderWay i l.id flow := by
  obtain ⟨t₀, hi₀⟩ : ∃ t₀, s₀.tasks[i]? = some t₀ := by
    cases hi₀ : s₀.tasks[i]? with
    | none => exact absurd (by rw [past, hi₀]; rfl) hbegun
    | some t₀ => exact ⟨t₀, rfl⟩
  obtain ⟨x, ctx, hexec⟩ := hl.call
  obtain ⟨t, hi, hcall, hpast⟩ := exists_task_of_callAt (h.callAt_eq (callAt_of_task hi₀))
  obtain ⟨new, status, lastRun, hnew, hstored, -, -⟩ := hl.stored
  rw [callAt_of_task hi, hcall] at hexec
  rw [hpast, past_of_task hi₀] at hnew
  have hload := hl.loaded
  rw [past_of_task hi₀] at hbegun
  refine ⟨t₀, hi₀, ⟨x, ctx, Option.some.inj hexec⟩, ?_, ?_⟩
  · -- it had loaded its flow by then
    rw [hpast, hnew, List.head?_append_of_ne_nil _ hbegun] at hload
    exact hload
  · -- nothing would have been left to be asked
    have hafter₀ := (hsound₀ t₀ (List.mem_of_getElem? hi₀)).after
    have hafter := (hsound t (List.mem_of_getElem? hi)).after
    rw [hcall, hnew] at hafter
    have hrest := hafter₀.of_append hafter
    obtain ⟨call, isCancelled, past, rest⟩ := t₀
    cases rest with
    | ask q next => rfl
    | done r =>
      obtain ⟨rfl, -⟩ := Interaction.after_done_iff.mp hrest
      exact absurd hstored List.not_mem_nil

end System

/-- The life of a flow that has never been run. -/
def Life.IsFresh (l : Life) : Prop := l.status = Status.inactive.text ∧ l.lastRun = none

/-- A flow that a call is about to store has the life of one that has never been run. -/
theorem Task.Sound.isFresh {t : Task} (ht : t.Sound) {f : Flow}
    {next : (Request.insert f).Answer → Operation (Except Fault Reply)}
    (hrest : t.rest = .ask (.insert f) next) : (Life.ofFlow f).IsFresh := by
  obtain ⟨hstatus, hlast⟩ := ht.inserts_fresh hrest
  refine ⟨?_, ?_⟩
  · rw [← hstatus]
    rfl
  · rw [Life.ofFlow, hlast]
    rfl

namespace System

variable {rules : Rules} {s s' s₀ s₁ s₂ : System} {i : Nat} {w : World} {id : String}

/-- **A life that comes in with a step** is that of a flow that has never been run, or has been
stored by an execution for the flow that was there. -/
theorem Step.fresh_or_stored (hw : w.store.Orderly) (hs : Reaches .closed (.idle w) s)
    (hfrom : Reaches .closed s₀ s) (h : Step .closed s s') {l : Life}
    (hl : l ∈ s'.world.store.lives) :
    l ∈ s.world.store.lives ∨ l.IsFresh ∨
      s.Holds l.id ∧ ∃ i flow, Stored s₀ s' i flow l := by
  rcases h.mem_lives (hs.orderly hw) hl with
    hold | ⟨t, ht, f, next, hrest, rfl⟩ | ⟨i, t, status, lastRun, next, hi, hrest, hpast, hid, heq⟩
  · exact .inl hold
  · exact .inr (.inl ((hs.sound ht).isFresh hrest))
  · -- the execution has loaded the flow, and its transcript goes on from where it was
    obtain ⟨t', hi', hcall', hpast'⟩ := exists_task_of_callAt (h.callAt_eq (callAt_of_task hi))
    have hmem : ⟨.setLife l.id status lastRun, .ok ()⟩ ∈ t'.past := by
      rw [← hpast', hpast]
      exact List.mem_append_right _ (List.mem_singleton_self _)
    have hs' : Reaches .closed (.idle w) s' := hs.tail h
    obtain ⟨x, ctx, flow, hexec, hload, hgets⟩ :=
      (hs'.sound (List.mem_of_getElem? hi')).stored hmem
    obtain ⟨more, hmore⟩ := hfrom.past_prefix i
    refine .inr (.inr ⟨hid, i, flow, ⟨x, ctx, ?_⟩, ?_, more ++ [_], status, lastRun, ?_,
      List.mem_append_right _ (List.mem_singleton_self _), hgets, heq⟩)
    · rw [callAt_of_task hi', hexec]
    · rw [hpast']
      exact hload
    · rw [hpast, ← hmore, List.append_assoc]

/-- **As long as a flow stays, it has never been run or an execution has stored its life** since it
came in. -/
theorem Stays.fresh_or_stored (hw : w.store.Orderly) (hs₀ : Reaches .closed (.idle w) s₀)
    (hgone : ¬ s₀.Holds id) (hstep : Step .closed s₀ s₁) (hstays : Stays .closed id s₁ s₂) :
    ∀ l ∈ s₂.world.store.lives, l.id = id → l.IsFresh ∨ ∃ i flow, Stored s₀ s₂ i flow l := by
  -- on the steps since the flow came in; what is there came with one of them
  induction hstays with
  | refl =>
    rintro l hl rfl
    rcases hstep.fresh_or_stored hw hs₀ .refl hl with hold | hfresh | ⟨hid, -⟩
    · exact absurd (List.mem_map_of_mem hold) hgone
    · exact .inl hfresh
    · exact absurd hid hgone
  | @tail s s' hstays hnext ih =>
    have hfrom : Reaches .closed s₀ s := .head hstep (Stays.reaches hstays)
    rintro l hl rfl
    rcases hnext.1.fresh_or_stored hw (hs₀.trans hfrom) hfrom hl with hold | hfresh | ⟨-, hstored⟩
    · rcases ih l hold rfl with hfresh | ⟨i, flow, hstored⟩
      · exact .inl hfresh
      · exact .inr ⟨i, flow, hstored.step hnext.1⟩
    · exact .inl hfresh
    · exact .inr hstored

/-- **Who begins while a flow stays loads this flow**, and no other under its id. -/
theorem Stays.loads (hgone : ¬ s₀.Holds id) (hstep : Step .closed s₀ s₁)
    (hstays : Stays .closed id s₁ s₂) (hnew : s₀.past i = []) {flow : Flow}
    (hload : (s₂.past i).head? = some ⟨.get id, .ok (some flow)⟩) :
    ∃ s, Stays .closed id s₁ s ∧ Stays .closed id s s₂ ∧
      s.world.store.get id = .ok (some flow) := by
  induction hstays with
  | refl =>
    rcases hstep.loads hload with hload | ⟨-, hfound⟩
    · rw [hnew] at hload
      exact nomatch hload
    · -- nothing could be loaded before
      obtain ⟨hid, l, hl, htells⟩ := Store.exists_tells_of_get hfound.symm
      exact absurd (List.mem_map.mpr ⟨l, hl, htells.id.trans hid⟩) hgone
  | @tail s s' hstays hnext ih =>
    rcases hnext.1.loads hload with hload | ⟨-, hfound⟩
    · obtain ⟨s₃, hs₃, hrest, hget⟩ := ih hload
      exact ⟨s₃, hs₃, hrest.tail hnext, hget⟩
    · exact ⟨s, hstays, .single hnext, hfound.symm⟩

/-- **The life of a flow under an id that is used again.**  Begin with a store in order, and let any
calls come in at any time, each of their requests be answered at one moment and refused at will.  Let
there be no flow under an id, and then one, as long as it stays.  It has the life of a flow that has
never been run, or one that an execution of the id has stored since then, for the flow that it had
loaded.  Either this execution has begun since then, and has loaded the flow that is there; or it
was under way when there was none, with a flow that was under the id before. -/
theorem life_of_reused_id (hw : w.store.Orderly) (hs₀ : Reaches .closed (.idle w) s₀)
    (hgone : ¬ s₀.Holds id) (hstep : Step .closed s₀ s₁) (hnew : s₁.Holds id)
    (hstays : Stays .closed id s₁ s₂) :
    ∃ l ∈ s₂.world.store.lives, l.id = id ∧
      (l.IsFresh ∨ ∃ i flow, Stored s₀ s₂ i flow l ∧
        ((s₀.past i = [] ∧ ∃ s, Stays .closed id s₁ s ∧ Stays .closed id s s₂ ∧
            s.world.store.get id = .ok (some flow)) ∨
          s₀.UnderWay i id flow)) := by
  obtain ⟨l, hl, rfl⟩ := List.mem_map.mp (hstays.holds hnew)
  refine ⟨l, hl, rfl, ?_⟩
  rcases hstays.fresh_or_stored hw hs₀ hgone hstep l hl rfl with hfresh | ⟨i, flow, hstored⟩
  · exact .inl hfresh
  · refine .inr ⟨i, flow, hstored, ?_⟩
    have hfrom : Reaches .closed s₀ s₂ := .head hstep hstays.reaches
    have hs₂ : Reaches .closed (.idle w) s₂ := hs₀.trans hfrom
    -- it has begun since the flow was gone, or had begun before
    by_cases hbegun : s₀.past i = []
    · exact .inl ⟨hbegun, hstays.loads hgone hstep hbegun hstored.loaded⟩
    · exact .inr (hstored.underWay (fun _ => hs₀.sound) (fun _ => hs₂.sound) hfrom hbegun)

/-! ### A run that outlives its flow -/

/-- **The system after some moves**, if they are possible and a flow stays. -/
def playStaying? (id : String) (s : System) : List Move → Option System
  | [] => some s
  | m :: rest => (s.move? m).bind fun s' => if s'.Holds id then s'.playStaying? id rest else none

theorem stays_of_playStaying? {moves : List Move} (h : s.playStaying? id moves = some s') :
    Stays rules id s s' := by
  induction moves generalizing s with
  | nil =>
    obtain rfl := Option.some.inj h
    exact .refl
  | cons m rest ih =>
    obtain ⟨s₁, hm, h⟩ := Option.bind_eq_some_iff.mp h
    split at h
    · next hid => exact .head ⟨step_of_move? hm, hid⟩ (ih h)
    · exact nomatch h

/-- A call is an execution. -/
def isExecution (call : Call) : Bool :=
  match call with
  | .execute _ _ _ => true
  | _ => false

/-- While the flow is run, it is deleted and imported again: right before and after this, and at the
end of the run. -/
theorem revivedMidway_reuses : ∃ s₀ s₁ s₂,
    (idle (.start (.memory .empty) ⟨0, 0⟩)).play? (revivedMidway.take 11) = some s₀ ∧
      s₀.move? (.go 3) = some s₁ ∧
      s₁.playStaying? "loop" (revivedMidway.drop 12) = some s₂ ∧
      ¬ s₀.Holds "loop" ∧ s₁.Holds "loop" ∧ s₀.past 1 ≠ [] ∧
      s₂.tasks.map (fun t => isExecution t.call) = [false, true, false, false] ∧
      s₂.world.store.lives.map (·.status) = ["error"] := by
  have hscene : ((idle (.start (.memory .empty) ⟨0, 0⟩)).play? (revivedMidway.take 11)).bind
      (fun s₀ => (s₀.move? (.go 3)).bind fun s₁ =>
        (s₁.playStaying? "loop" (revivedMidway.drop 12)).map fun s₂ =>
          (decide (s₀.Holds "loop"), decide (s₁.Holds "loop"), (s₀.past 1).isEmpty,
            s₂.tasks.map (fun t => isExecution t.call), s₂.world.store.lives.map (·.status)))
        = some (false, true, false, [false, true, false, false], ["error"]) := by rfl
  obtain ⟨s₀, hs₀, hscene⟩ := Option.bind_eq_some_iff.mp hscene
  obtain ⟨s₁, hs₁, hscene⟩ := Option.bind_eq_some_iff.mp hscene
  obtain ⟨s₂, hs₂, hscene⟩ := Option.map_eq_some_iff.mp hscene
  simp only [Prod.mk.injEq, decide_eq_false_iff_not, decide_eq_true_eq,
    List.isEmpty_eq_false_iff] at hscene
  exact ⟨s₀, s₁, s₂, hs₀, hs₁, hs₂, hscene⟩

/-- The flow that is imported has the life of the one that was deleted. -/
theorem life_of_reused_id_revivedMidway : ∃ s₀ s₁ s₂,
    (idle (.start (.memory .empty) ⟨0, 0⟩)).play? (revivedMidway.take 11) = some s₀ ∧
      ¬ s₀.Holds "loop" ∧ s₀.move? (.go 3) = some s₁ ∧ s₁.Holds "loop" ∧
      s₁.playStaying? "loop" (revivedMidway.drop 12) = some s₂ ∧
      ∃ l ∈ s₂.world.store.lives, l.id = "loop" ∧ ¬ l.IsFresh ∧
        ∃ i flow, Stored s₀ s₂ i flow l ∧
          ((s₀.past i = [] ∧ ∃ s, Stays .closed "loop" s₁ s ∧ Stays .closed "loop" s s₂ ∧
              s.world.store.get "loop" = .ok (some flow)) ∨
            s₀.UnderWay i "loop" flow) := by
  obtain ⟨s₀, s₁, s₂, hs₀, hs₁, hs₂, hgone, hnew, -, -, hlives⟩ := revivedMidway_reuses
  obtain ⟨l, hl, hid, hlife⟩ := life_of_reused_id (w := .start (.memory .empty) ⟨0, 0⟩)
    Store.orderly_empty_memory (reaches_of_play? hs₀) hgone (step_of_move? hs₁) hnew
    (stays_of_playStaying? hs₂)
  -- the only life that is there is that of a run, so that an execution has stored it
  have herror : l.status = "error" :=
    List.mem_singleton.mp (hlives ▸ List.mem_map_of_mem hl)
  have hrun : ¬ l.IsFresh := fun hfresh => absurd (herror.symm.trans hfresh.1) (by decide)
  exact ⟨s₀, s₁, s₂, hs₀, hgone, hs₁, hnew, hs₂, l, hl, hid, hrun, hlife.resolve_left hrun⟩

/-- **It is not so that a flow has never been run** as long as no execution has begun since it came
in. -/
theorem life_of_reused_id_inherited :
    ¬ ∀ (w : World) (s₀ s₁ s₂ : System) (id : String), w.store.Orderly →
      Reaches .closed (.idle w) s₀ → ¬ s₀.Holds id → Step .closed s₀ s₁ → s₁.Holds id →
      Stays .closed id s₁ s₂ →
      (∀ i x ctx, s₂.callAt i = some (.execute x id ctx) → s₀.past i ≠ []) →
      ∀ l ∈ s₂.world.store.lives, l.id = id → l.IsFresh := by
  intro hkept
  obtain ⟨s₀, s₁, s₂, hs₀, hs₁, hs₂, hgone, hnew, hbegun, hcalls, hlives⟩ := revivedMidway_reuses
  have hreach : Reaches .closed (.idle (.start (.memory .empty) ⟨0, 0⟩)) s₀ :=
    reaches_of_play? hs₀
  have hstays : Stays .closed "loop" s₁ s₂ := stays_of_playStaying? hs₂
  obtain ⟨l, hl, hid⟩ := List.mem_map.mp (hstays.holds hnew)
  -- the only execution had begun before
  have hexecutes : ∀ i x ctx, s₂.callAt i = some (.execute x "loop" ctx) → s₀.past i ≠ [] := by
    intro i x ctx hcall
    have hi : (s₂.tasks.map fun t => isExecution t.call)[i]? = some true := by
      obtain ⟨t, ht, hexec, -⟩ := exists_task_of_callAt hcall
      rw [List.getElem?_map, ht, Option.map_some, hexec]
      rfl
    rw [hcalls] at hi
    match i with
    | 1 => exact hbegun
    | 0 | 2 | 3 => exact nomatch hi
    | i + 4 => exact nomatch hi
  have hfresh := hkept _ s₀ s₁ s₂ "loop" Store.orderly_empty_memory hreach hgone
    (step_of_move? hs₁) hnew hstays hexecutes l hl hid
  have herror : l.status = "error" :=
    List.mem_singleton.mp (hlives ▸ List.mem_map_of_mem hl)
  exact absurd (herror.symm.trans hfresh.1) (by decide)

end System

end Flowgraph
