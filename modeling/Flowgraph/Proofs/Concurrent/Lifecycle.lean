import Flowgraph.Proofs.Concurrent.Lives
import Flowgraph.Proofs.Session.Alone
import Flowgraph.Proofs.Store.Slots

/-!
# What an execution does to a flow

An execution with nothing else going on is followed through its requests: it loads the flow, marks
it as running if it has a trigger, runs it, adds the record to the log and stores the life that the
run has left.  All that is seen of it in the end is that this one flow is now as the run has left it
(`Store.Replaces`), and that there is one more record (`Store.withRecord`).

The two lives that are stored make up one replacement.  A flow without a trigger is replaced by
itself, whether or not it has been run before: the life that is stored is the one that was loaded.
-/

namespace Flowgraph

open Executor (Finished Ran Ends)

/-! ### A run alone -/

/-- **A run alone** adds its record to the log, under the next id and with the next reading of the
clock for its start. -/
theorem World.runAlone_run (cancelAt : Option Nat) (x : Executor) (flow : Flow) (ctx : Context)
    (w : World) :
    ∃ fin w', World.runAlone cancelAt (x.run flow ctx) w = (fin, w') ∧
      w'.store = (w.store.append fin.record).2 ∧ Ends flow fin ∧
      fin.record.runId = World.runId w.made ∧ fin.record.startedAt = w.clock := by
  have hran := Executor.run_ran (World.completes_transcript cancelAt (x.run flow ctx) w)
  refine ⟨(World.runAlone cancelAt (x.run flow ctx) w).1,
    (World.runAlone cancelAt (x.run flow ctx) w).2, rfl, ?_, hran.ends, ?_⟩
  · -- a run changes no flow, and adds one record
    have hkeeps : ∀ e ∈ World.transcript cancelAt (x.run flow ctx) w, ¬ e.1.ChangesFlows :=
      fun e he => Executor.not_changesFlows_of_runAsks ((Executor.run_meets x flow ctx).requests
        (World.completes_transcript cancelAt _ w) (fun _ _ => trivial) e he)
    rw [World.runAlone_store cancelAt _ w hkeeps, hran.appended]
    rfl
  · -- the id and the start are the first two answers of the run
    obtain ⟨next, hnext⟩ := Executor.exists_run_eq x flow ctx
    obtain ⟨t', ht'⟩ := hran.opened
    generalize (World.runAlone cancelAt (x.run flow ctx) w).1 = fin at ht' ⊢
    have hrunId : ∀ n, Request.freshRunId ≠ .wait n := nofun
    have hclock : ∀ n, Request.clock ≠ .wait n := nofun
    rw [hnext, World.transcript_ask hrunId, World.transcript_ask hclock] at ht'
    obtain ⟨hmade, htail⟩ := List.cons.inj ht'
    obtain ⟨hclock, -⟩ := List.cons.inj htail
    exact ⟨(eq_of_heq (Sigma.mk.inj hmade).2).symm, (eq_of_heq (Sigma.mk.inj hclock).2).symm⟩

/-! ### An execution alone -/

/-- **A world is ready for a run**: what the run brings to the store is taken and read back.  In
memory it always is; in rows the id that is made next has to be new to the log, and the clock has to
show an instant that has a text. -/
structure World.Ready (w : World) : Prop where
  clock : w.store.ReadsBack (some w.clock)
  runId : w.store.Lacks (World.runId w.made)

/-- **What an execution leaves** in a world whose store is in order, where it has loaded this flow. -/
structure World.Executed (w w' : World) (id : String) (flow : Flow) (fin : Finished) : Prop where
  ends : Ends flow fin
  replaces : w.store.Replaces w'.store id fin.flow
  entries : w'.store.entries = Store.withRecord fin.record w.store.entries

namespace Flows

variable {id : String} {w : World}

/-- **The run of a flow** that may have been marked as running before, and the life that is stored
behind it. -/
theorem launch_alone (x : Executor) (ctx : Context) (flow : Flow) (cancelAt : Option Nat)
    (hw : w.store.Orderly) (hready : w.Ready) {marked : Flow}
    (hget : w.store.get id = .ok (some marked))
    (hmarked : ∀ status lastRun, marked.withLife status lastRun = flow.withLife status lastRun)
    (hself : flow.trigger? = none → marked = flow ∧ w.store.ReadsBack flow.lastRun) :
    ∃ fin w', World.runAlone cancelAt (launch x id flow ctx).run w = (.ok fin, w') ∧
      w.Executed w' id flow fin := by
  obtain ⟨fin, w₁, hrun, hstore, hends, hid, hstarted⟩ :=
    World.runAlone_run cancelAt x flow ctx w
  -- the record is in the log, and nothing else has changed
  have horderly : w₁.store.Orderly := by
    rw [hstore]
    exact World.answer_orderly hw false (.append fin.record)
  have hentries : w₁.store.entries = Store.withRecord fin.record w.store.entries := by
    rw [hstore]
    exact hw.hasTables.entries_append (hid ▸ hready.runId)
  obtain ⟨hseen, hlisted⟩ := w.store.seen_append fin.record
  rw [← hstore] at hseen hlisted
  have hkept : w.store.Replaces w₁.store id marked := hw.replaces_self hget hseen hlisted
  -- what the run has left is the flow with a life, and this is read back
  have hleft : marked.withLife fin.flow.status fin.flow.lastRun = fin.flow ∧
      w.store.ReadsBack fin.flow.lastRun := by
    cases hends with
    | untriggered hnone hflow _ _ _ =>
      obtain ⟨rfl, hreads⟩ := hself hnone
      rw [hflow]
      exact ⟨rfl, hreads⟩
    | triggered _ hflow =>
      rw [hflow, hmarked, hstarted]
      exact ⟨rfl, hready.clock⟩
  obtain ⟨hlife, hreads⟩ := hleft
  have hreads₁ : w₁.store.ReadsBack fin.flow.lastRun := hstore ▸ Store.readsBack_append _ hreads
  rw [launch_run, World.runAlone_bind, hrun]
  by_cases hlast : fin.flow.lastRun.isSome = true
  · have hstored := horderly.replaces_setLife hkept.get_self fin.flow.status hreads₁
    rw [hlife] at hstored
    refine ⟨fin, { w₁ with store := (w₁.store.setLife id fin.flow.status fin.flow.lastRun).2 }, ?_,
      hends, hkept.trans hstored, ?_⟩
    · show World.runAlone cancelAt (if _ then _ else _) w₁ = _
      rw [if_pos hlast]
      rfl
    · rw [← hentries]
      exact horderly.hasTables.entries_setLife ..
  · -- there is no last run, so the flow has no trigger and has never been run
    refine ⟨fin, w₁, ?_, hends, ?_, hentries⟩
    · show World.runAlone cancelAt (if _ then _ else _) w₁ = _
      rw [if_neg hlast]
      rfl
    · cases hends with
      | untriggered hnone hflow _ _ _ =>
        rw [hflow, ← (hself hnone).1]
        exact hkept
      | triggered _ hflow =>
        rw [hflow] at hlast
        exact absurd rfl hlast

/-- **An execution alone** fails and leaves the store as it is, or has loaded the flow and run it. -/
theorem execute_alone (x : Executor) (id : String) (ctx : Context) (cancelAt : Option Nat)
    (hw : w.store.Orderly) (htimed : ∀ l ∈ w.store.lives, l.IsTimed) (hready : w.Ready) :
    (∃ fault, World.runAlone cancelAt (execute x id ctx).run w = (.error fault, w) ∧
        ∀ flow, w.store.get id ≠ .ok (some flow)) ∨
      ∃ flow fin w', World.runAlone cancelAt (execute x id ctx).run w = (.ok fin, w') ∧
        w.store.get id = .ok (some flow) ∧ w.Executed w' id flow fin := by
  have hload : ∀ n, Request.get id ≠ .wait n := nofun
  rw [execute_run, World.runAlone_ask hload]
  show (∃ fault, World.runAlone cancelAt (resume x id ctx (w.store.get id)).run w = _ ∧ _) ∨
    ∃ flow fin w', World.runAlone cancelAt (resume x id ctx (w.store.get id)).run w = _ ∧ _
  match hget : w.store.get id with
  | .error e => exact .inl ⟨e, rfl, nofun⟩
  | .ok none => exact .inl ⟨_, rfl, nofun⟩
  | .ok (some flow) =>
    have hreads : w.store.ReadsBack flow.lastRun := Store.readsBack_of_get htimed hget
    cases htrig : flow.trigger? with
    | none =>
      -- without a trigger the flow is not marked, and the run begins at once
      obtain ⟨fin, w', hrun, hexec⟩ := launch_alone x ctx flow cancelAt hw hready hget
        (fun _ _ => rfl) fun _ => ⟨rfl, hreads⟩
      refine .inr ⟨flow, fin, w', ?_, rfl, hexec⟩
      rw [resume_of_no_trigger htrig, hrun]
    | some v =>
      have hsome : flow.trigger?.isSome := by rw [htrig]; rfl
      -- marking the flow leaves a store in order, in which the run goes on
      have hmark := hw.replaces_setLife hget .running hreads
      have hw₁ := World.answer_orderly hw (w.isCancelledBy cancelAt)
        (.setLife id .running flow.lastRun)
      have hready₁ : (w.withStore (w.store.setLife id .running flow.lastRun)).2.Ready := by
        refine ⟨hw.readsBack_setLife id .running flow.lastRun hready.clock, ?_⟩
        show (w.store.setLife id .running flow.lastRun).2.Lacks _
        unfold Store.Lacks
        rw [hw.hasTables.entries_setLife]
        exact hready.runId
      obtain ⟨fin, w', hrun, hexec⟩ := launch_alone x ctx flow cancelAt
        hw₁ hready₁ hmark.get_self (fun _ _ => rfl) fun hnone => nomatch hnone.symm.trans htrig
      refine .inr ⟨flow, fin, w', ?_, rfl, hexec.ends, hmark.trans hexec.replaces, ?_⟩
      · have hstore : ∀ n, Request.setLife id .running flow.lastRun ≠ .wait n := nofun
        have htook : (w.answer (w.isCancelledBy cancelAt) (.setLife id .running flow.lastRun)).1
            = .ok () := hw.setLife_took ..
        rw [resume_of_trigger hsome, World.runAlone_ask hstore, htook]
        exact hrun
      · rw [hexec.entries]
        show Store.withRecord fin.record (w.store.setLife id .running flow.lastRun).2.entries = _
        rw [hw.hasTables.entries_setLife]

end Flows

/-! ### Executions in systems -/

/-- **The store is in order, and last runs are stored as texts of instants.** -/
structure World.KeepsTime (w : World) : Prop where
  orderly : w.store.Orderly
  timed : ∀ l ∈ w.store.lives, l.IsTimed

theorem World.KeepsTime.preserves : Rules.closed.Preserves World.KeepsTime fun _ => True := by
  refine Rules.closed_preserves (fun w w' hsame hw => ?_) fun w cancelled q hw => ?_
  · exact ⟨hsame ▸ hw.orderly, hsame ▸ hw.timed⟩
  · refine ⟨World.answer_orderly hw.orderly cancelled q, ?_⟩
    rw [World.lives_answer hw.orderly]
    exact q.isTimed_onLives hw.timed

/-- **What an execution does to a flow.**  Begin with an empty store of either kind, and let any calls
come in at any time, each of their requests be answered at one moment and refused at will.  Then, in
any world that is reached and ready for a run, an execution with nothing else going on

* ends with a run if and only if its flow can be loaded;
* leaves the store as it is if it fails;
* otherwise leaves the flow as the run has left it, every other flow as it was and each in its place,
  and the log with the record of the run behind the others. -/
theorem System.execute_lifecycle {w : World}
    (hw : w.store = .memory .empty ∨ w.store = .rows .empty) {s : System}
    (hs : System.Reaches .closed (.idle w) s) (hready : s.world.Ready) (x : Executor) (id : String)
    (ctx : Context) (cancelAt : Option Nat) :
    let after := World.runAlone cancelAt (Flows.execute x id ctx).run s.world
    ((∃ fin, after.1 = .ok fin) ↔ ∃ flow, s.world.store.get id = .ok (some flow)) ∧
      (∀ fault, after.1 = .error fault → after.2.store = s.world.store) ∧
      ∀ fin, after.1 = .ok fin → ∃ flow, s.world.store.get id = .ok (some flow) ∧
        s.world.Executed after.2 id flow fin := by
  have hstart : w.KeepsTime := by
    rcases hw with hw | hw
    · exact ⟨hw ▸ Store.orderly_empty_memory, by rw [hw]; exact nofun⟩
    · exact ⟨hw ▸ Store.orderly_empty_rows, by rw [hw]; exact nofun⟩
  -- calls keep the store in order and its last runs legible, and so the execution is as it is alone
  obtain ⟨hworld, -⟩ := World.KeepsTime.preserves.reached hstart hs
  rcases Flows.execute_alone x id ctx cancelAt hworld.orderly hworld.timed hready with
    ⟨fault, hrun, hnone⟩ | ⟨flow, fin, w', hrun, hget, hexec⟩
  · -- the flow could not be loaded
    rw [hrun]
    have hfailed : ∀ fin, Except.error fault ≠ (.ok fin : Except Fault Finished) := by simp
    exact ⟨⟨fun ⟨fin, hfin⟩ => absurd hfin (hfailed fin),
      fun ⟨flow, hflow⟩ => absurd hflow (hnone flow)⟩, fun _ _ => rfl,
      fun fin hfin => absurd hfin (hfailed fin)⟩
  · rw [hrun]
    refine ⟨⟨fun _ => ⟨flow, hget⟩, fun _ => ⟨fin, rfl⟩⟩, fun _ hfault => ?_, fun fin' hfin => ?_⟩
    · exact nomatch hfault
    · obtain rfl := Except.ok.inj hfin
      exact ⟨flow, hget, hexec⟩

namespace System

/-- A flow that is run, and then loses its trigger. -/
def triggerLostAfterwards : List Move :=
  let loop : Flow :=
    .fresh "loop" "Loop" "" ⟨[⟨"start", "trigger", Json.empty, .origin⟩],
      [⟨"back", "start", "start", none, none⟩]⟩ ⟨0, 0⟩
  let run : Call := .execute ⟨.empty, 1⟩ "loop" ⟨.str "payload", []⟩
  let untrigger : Call := .update "loop" ⟨none, none, some [], some []⟩
  [.call (.importFlow loop), .go 0, .call run] ++ List.replicate 14 (.go 1)
    ++ [.call untrigger] ++ List.replicate 3 (.go 2)

/-- It is run once more without a trigger, and keeps the life that its first run has left. -/
theorem execute_lifecycle_triggerLostAfterwards :
    ∃ s, (idle (.start (.memory .empty) ⟨0, 0⟩)).play? triggerLostAfterwards = some s ∧
      (s.world.store.get "loop").map (·.map fun flow => (flow.trigger?, flow.status, flow.lastRun))
        = .ok (some (none, .error, some ⟨0, 0⟩)) ∧
      ∃ fin w', World.runAlone none (Flows.execute ⟨.empty, 1⟩ "loop" ⟨.str "payload", []⟩).run
          s.world = (.ok fin, w') ∧
        fin.record.success = false ∧ fin.record.steps = [] ∧
          w'.store.get "loop" = s.world.store.get "loop" := by
  have hlife : ((idle (.start (.memory .empty) ⟨0, 0⟩)).play? triggerLostAfterwards).map (fun s =>
      (s.world.store.get "loop").map (·.map fun flow =>
        (flow.trigger?, flow.status, flow.lastRun)))
        = some (.ok (some (none, .error, some ⟨0, 0⟩))) := by rfl
  have hkind : ((idle (.start (.memory .empty) ⟨0, 0⟩)).play? triggerLostAfterwards).map
      (·.world.store.entries.isLeft) = some true := by rfl
  obtain ⟨s, hs, hs'⟩ := Option.map_eq_some_iff.mp hlife
  rw [hs] at hkind
  -- the store is a memory, so nothing has to be legible there
  have hready : s.world.Ready := by
    cases hstore : s.world.store with
    | memory m => exact ⟨by rw [hstore]; trivial, by rw [hstore]; trivial⟩
    | rows m =>
      rw [Option.map_some, hstore] at hkind
      exact nomatch hkind
  obtain ⟨hok, -, hends⟩ := execute_lifecycle (.inl rfl) (reaches_of_play? hs) hready
    ⟨.empty, 1⟩ "loop" ⟨.str "payload", []⟩ none
  cases hget : s.world.store.get "loop" with
  | error e => rw [hget] at hs'; exact nomatch hs'
  | ok found =>
    rw [hget] at hs'
    cases found with
    | none => exact nomatch hs'
    | some flow =>
      obtain ⟨fin, hfin⟩ := hok.mpr ⟨flow, hget⟩
      obtain ⟨flow', hget', hexec⟩ := hends fin hfin
      obtain rfl : flow = flow' := Option.some.inj (Except.ok.inj (hget.symm.trans hget'))
      have htrig : flow.trigger? = none := (Prod.mk.inj (Option.some.inj (Except.ok.inj hs'))).1
      refine ⟨s, hs, by rw [hget]; exact hs', fin, _, Prod.ext hfin rfl, ?_⟩
      -- there is no trigger any more, so the flow is put back with the life it had
      cases hexec.ends with
      | untriggered _ hflow hsuccess hsteps _ =>
        refine ⟨hsuccess, hsteps, ?_⟩
        rw [hexec.replaces.get_self, hflow, hget]
      | triggered hsome _ =>
        rw [htrig] at hsome
        exact nomatch hsome

end System

end Flowgraph
