import Flowgraph.Proofs.Concurrent.Played
import Flowgraph.Proofs.Schedule.Firing

/-!
# The runs that a scheduler has started

The runs of the schedules that have fired go on in the background, and are played by a system of
executions (`Scheduler.exists_plays`).  So what they leave in the log is known at every moment
(`System.Plays.recorded`): each of them one record at most, which names its flow and has the payload of
its schedule as its trigger, and exactly one at its end if its flow can be loaded.  Nothing else comes
into the log.

A scheduler that shuts down cancels all of them that have not ended, in whatever place they are by then
(`Scheduler.mem_placesAfter`), and after that all of them have (`Scheduler.isQuiet_shutDown`).
-/

namespace Flowgraph

namespace Scheduler

/-! ### Runs in the background -/

/-- The call that the run of a schedule is. -/
def callOf (x : Executor) (f : ScheduledFlow) : Call := .execute x f.schedule.flowId f.context

theorem reaches_calls (calls : List Call) (s : System) :
    System.Reaches .undisturbed s { s with tasks := s.tasks ++ calls.map .start } := by
  induction calls generalizing s with
  | nil => rw [List.map_nil, List.append_nil]
  | cons call rest ih =>
    have hrest := ih { s with tasks := s.tasks ++ [.start call] }
    rw [List.append_assoc] at hrest
    exact .head (.call s call) hrest

/-- **The runs that have been started are played** by executions that have come in. -/
theorem exists_plays (x : Executor) (fired : List ScheduledFlow) (w : World) :
    ∃ sys, System.Reaches .undisturbed (.idle (fired.foldl (fire x) (.start w)).world) sys ∧
      sys.Plays (fired.map (callOf x)) (fired.foldl (fire x) (.start w)) := by
  rw [foldl_fire]
  refine ⟨_, reaches_calls (fired.map (callOf x)) (.idle _), rfl, rfl, ?_, ?_, ?_⟩
  · show (([] ++ (fired.map (callOf x)).map Task.start).map fun t : Task => t.call) = _
    rw [List.nil_append, List.map_map]
    exact List.map_id _
  · simp [System.idle, Session.start]
  · intro i j t hj ht
    change ([] ++ fired.mapIdx _)[i]? = some j at hj
    change ([] ++ (fired.map (callOf x)).map Task.start)[i]? = some t at ht
    rw [List.nil_append, List.getElem?_mapIdx] at hj
    rw [List.nil_append, List.map_map, List.getElem?_map] at ht
    obtain ⟨f, hf, rfl⟩ := Option.map_eq_some_iff.mp hj
    rw [hf] at ht
    obtain rfl := Option.some.inj ht
    refine ⟨.due _, rfl, ?_⟩
    rintro _ ⟨⟩

/-! ### What they leave in the log -/

/-- **What the run of a schedule has left in the log**: one record at most, which names the flow and has
the payload of the schedule as its trigger; one at its end if the flow can be loaded, and none if it
cannot. -/
structure Left (first : Store) (f : ScheduledFlow) (isOver isCut : Prop) (l : List Record) : Prop where
  few : l.length ≤ 1
  flowId : ∀ r ∈ l, r.flowId = f.schedule.flowId
  trigger : ∀ r ∈ l, r.trigger = f.schedule.payload.getD .null
  loads : l ≠ [] → first.Loads f.schedule.flowId
  ended : isOver → first.Loads f.schedule.flowId → l ≠ []
  /-- The record of a run that has been cut short is that of a cancelled one. -/
  cut : isOver → isCut → ∀ r ∈ l, r.IsCancelled

/-- The run at a place of the background has ended. -/
def HasEnded (s : Runs) (i : Nat) : Prop := ∃ j v, s.jobs[i]? = some j ∧ j.phase = .ended v

/-- **The log has what the runs of some schedules have left**, each its own, behind what it had before,
and nothing else. -/
structure Recorded (w : World) (fired : List ScheduledFlow) (isCut : Nat → Prop) (s : Runs) : Prop where
  runs : s.jobs.length = fired.length
  log : ∃ (left : List (List Record)) (new : List Record), left.length = fired.length ∧
    (∀ (i : Nat) (f : ScheduledFlow) (l : List Record), fired[i]? = some f → left[i]? = some l →
      Left w.store f (HasEnded s i) (isCut i) l) ∧
    new.Perm left.flatten ∧ s.world.store.entries = Store.withRecords new w.store.entries

section Plays

variable {w : World} {sys : System} {x : Executor} {fired : List ScheduledFlow} {s : Runs}

theorem rest_of_hasEnded {calls : List Call} (h : sys.Plays calls s) {i : Nat} {t : Task}
    (ht : sys.tasks[i]? = some t) (hended : HasEnded s i) : ∃ r, t.rest = .done r := by
  obtain ⟨j, v, hj, hphase⟩ := hended
  have hstands := (h.jobs i j t hj ht).stands
  rw [hphase] at hstands
  generalize hrest : t.rest = rest at hstands
  cases hstands with
  | ended r => exact ⟨_, rfl⟩

/-- **What an execution that is served leaves** is what the run of its schedule leaves. -/
theorem left_of_served {t : Task} (ht : t.Sound) {f : ScheduledFlow} (hcall : t.call = callOf x f)
    {first : Store} (hserved : ∀ e ∈ t.past, e.1.Served first e.2) {isOver isCut : Prop}
    (hover : isOver → ∃ r, t.rest = .done r) (hcut : isCut → ¬ t.past.Calm) :
    Left first f isOver isCut t.past.appended := by
  -- at its end it is known whether there is a record, and before only which one there may be
  have hend : isOver → (¬ first.Loads f.schedule.flowId ∧ t.past.appended = []) ∨
      ∃ record, t.past.appended = [record] ∧ (¬ t.past.Calm → record.IsCancelled) := by
    intro h
    obtain ⟨r, hrest⟩ := hover h
    obtain ⟨r', hexec, -⟩ := ht.executed hcall hrest
    refine (hexec.of_served hserved).imp id ?_
    rintro ⟨record, hone, -, hcancelled⟩
    exact ⟨record, hone, hcancelled⟩
  -- whatever it has left is the record of an execution of its flow
  have hrecord : ∀ r ∈ t.past.appended, r.OfExecution first f.schedule.flowId f.context := by
    intro r hr
    rcases ht.appended_of_served hcall hserved with hnone | ⟨r', hone, hof⟩
    · exact absurd (hnone ▸ hr) List.not_mem_nil
    · rw [hone, List.mem_singleton] at hr
      exact hr ▸ hof
  refine ⟨?_, fun r hr => (hrecord r hr).flowId, fun r hr => (hrecord r hr).trigger, ?_, ?_, ?_⟩
  · rcases ht.appended_of_served hcall hserved with hnone | ⟨r, hone, -⟩
    · rw [hnone]; exact Nat.zero_le 1
    · rw [hone]; exact Nat.le_refl 1
  · intro hsome
    obtain ⟨r, hr⟩ := List.exists_mem_of_ne_nil _ hsome
    exact (hrecord r hr).loads
  · intro h hloads
    rcases hend h with ⟨hnot, -⟩ | ⟨record, hone, -⟩
    · exact absurd hloads hnot
    · rw [hone]
      exact List.cons_ne_nil _ _
  · intro h hiscut r hr
    rcases hend h with ⟨-, hnone⟩ | ⟨record, hone, hcancelled⟩
    · exact absurd (hnone ▸ hr) List.not_mem_nil
    · rw [hone, List.mem_singleton] at hr
      exact hr ▸ hcancelled (hcut hiscut)

theorem length_of_plays (h : sys.Plays (fired.map (callOf x)) s) : s.jobs.length = fired.length := by
  have hcalls := congrArg List.length h.calls
  rw [List.length_map, List.length_map, h.length] at hcalls
  exact hcalls

/-- The execution at a place is that of the schedule at this place. -/
theorem call_of_plays (h : sys.Plays (fired.map (callOf x)) s) {i : Nat} {t : Task}
    {f : ScheduledFlow} (ht : sys.tasks[i]? = some t) (hf : fired[i]? = some f) :
    t.call = callOf x f := by
  have hcalls := congrArg (·[i]?) h.calls
  simp only [List.getElem?_map, ht, hf, Option.map_some] at hcalls
  exact Option.some.inj hcalls

/-- **Whatever the runs have done so far**, the log has what they have left. -/
theorem recorded_of_plays (hsys : System.Reaches .undisturbed (.idle w) sys)
    (h : sys.Plays (fired.map (callOf x)) s) (hw : w.store.Orderly) (hready : w.ReadyUntil s.world)
    {isCut : Nat → Prop} (hcut : ∀ i, isCut i → ¬ Transcript.Calm (sys.past i)) :
    Recorded w fired isCut s := by
  have honly : sys.OnlyRuns := by
    intro t ht
    have hmem : t.call ∈ fired.map (callOf x) := h.calls ▸ List.mem_map_of_mem ht
    obtain ⟨f, -, hf⟩ := List.mem_map.mp hmem
    exact ⟨x, f.schedule.flowId, f.context, hf.symm⟩
  obtain ⟨-, hkept⟩ := hsys.kept hw honly (h.world ▸ hready)
  obtain ⟨new, hentries, hperm⟩ := hkept.log
  -- each run has left what its transcript has added to the log
  refine ⟨length_of_plays h, sys.pasts.map Transcript.appended, new, ?_, ?_, ?_, ?_⟩
  · rw [List.length_map, System.pasts, List.length_map, h.length, length_of_plays h]
  · intro i f l hf hl
    rw [System.pasts, List.map_map, List.getElem?_map] at hl
    obtain ⟨t, ht, rfl⟩ := Option.map_eq_some_iff.mp hl
    have hmem := List.mem_of_getElem? ht
    refine left_of_served (hsys.sound hmem) (call_of_plays h ht hf)
      (hkept.served t.past (List.mem_map_of_mem hmem)) (rest_of_hasEnded h ht) fun hi => ?_
    rw [← System.past_of_task ht]
    exact hcut i hi
  · rwa [← List.flatMap_def]
  · rw [← h.world]
    exact hentries

/-- **The runs tell of themselves only**: what they tell comes behind what was told before, and none of
it is that a schedule has fired. -/
theorem told_of_plays (hsys : System.Reaches .undisturbed (.idle w) sys)
    (h : sys.Plays (fired.map (callOf x)) s) :
    ∃ told : List Event, s.world.unread = told.reverse ++ w.unread ∧
      ∀ e ∈ told, ∀ schedule flow, e ≠ .scheduleFired schedule flow := by
  obtain ⟨told, hunread, hperm⟩ := hsys.heard
  refine ⟨told, h.world ▸ hunread, ?_⟩
  rintro e he schedule flow rfl
  obtain ⟨past, hpast, hmem⟩ := List.mem_flatMap.mp (hperm.subset he)
  obtain ⟨t, ht, rfl⟩ := List.mem_map.mp hpast
  exact (hsys.sound ht).not_scheduleFired schedule flow hmem

/-- **When the background is quiet, all the runs have ended.** -/
theorem hasEnded_of_isQuiet (h : sys.Plays (fired.map (callOf x)) s) (hquiet : s.IsQuiet) {i : Nat}
    (hi : i < fired.length) : HasEnded s i := by
  have hi : i < s.jobs.length := length_of_plays h ▸ hi
  obtain ⟨t, -, hplayed⟩ := h.exists_task (List.getElem?_eq_getElem hi)
  have hstands := hplayed.stands
  have hover := hquiet _ (List.getElem_mem hi)
  unfold Job.rest? at hover
  cases hphase : s.jobs[i].phase with
  | due rest | waiting wake next =>
    rw [hphase] at hover
    exact nomatch hover
  | ended v => exact ⟨_, v, List.getElem?_eq_getElem hi, hphase⟩
  | collected =>
    -- nobody takes the value of a run
    rw [hphase] at hstands
    exact nomatch hstands

end Plays

/-! ### Shutting down -/

theorem mem_dropLast_set {l : List Nat} {k e last i : Nat} (hk : l[k]? = some e)
    (hlast : l.getLast? = some last) (hmem : i ∈ l) (hne : i ≠ e) : i ∈ (l.set k last).dropLast := by
  obtain ⟨init, rfl⟩ := List.getLast?_eq_some_iff.mp hlast
  rcases Nat.lt_or_ge k init.length with hlt | hge
  · -- the last takes the place of the one that goes
    rw [List.set_append_left _ _ hlt, List.dropLast_concat]
    rcases List.mem_append.mp hmem with hmem | hmem
    · obtain ⟨m, hm⟩ := List.mem_iff_getElem?.mp hmem
      have hmk : k ≠ m := by
        rintro rfl
        rw [List.getElem?_append_left hlt, hm] at hk
        exact hne (Option.some.inj hk)
      exact List.mem_of_getElem? ((List.getElem?_set_ne hmk).trans hm)
    · rw [List.mem_singleton.mp hmem]
      exact List.mem_set hlt last
  · -- the one that goes is itself the last
    have hlen : k < init.length + 1 := by
      obtain ⟨hlt, -⟩ := List.getElem?_eq_some_iff.mp hk
      rwa [List.length_append, List.length_singleton] at hlt
    obtain rfl : k = init.length := by omega
    rw [List.getElem?_concat_length] at hk
    obtain rfl := Option.some.inj hk
    rw [List.set_append_right _ _ hge, Nat.sub_self, List.set_cons_zero, List.dropLast_concat]
    exact (List.mem_append.mp hmem).resolve_right fun h => hne (List.mem_singleton.mp h)

/-- **A run that has not ended has a place** among those that have not, whichever end before. -/
theorem mem_placesAfter {n i : Nat} {ended : List Nat} (hi : i < n) (h : i ∉ ended) :
    i ∈ placesAfter n ended := by
  unfold placesAfter
  have hmem : i ∈ List.range n := List.mem_range.mpr hi
  generalize List.range n = places at hmem
  induction ended generalizing places with
  | nil => exact hmem
  | cons e rest ih =>
    -- the place of the one that ends is taken, and nobody else goes
    obtain ⟨hne, hrest⟩ := not_or.mp (mt List.mem_cons.mpr h)
    refine ih hrest _ ?_
    dsimp only
    split
    · next k last hk hlast =>
      obtain ⟨hlt, hget, -⟩ := List.idxOf?_eq_some_iff.mp hk
      exact mem_dropLast_set (List.getElem?_eq_some_iff.mpr ⟨hlt, hget⟩) hlast hmem hne
    · exact hmem

theorem hasEnded_of_mem_endedRuns {s : Runs} {i : Nat} (h : i ∈ endedRuns s) : HasEnded s i := by
  obtain ⟨⟨turn, _⟩, hmem, rfl⟩ := List.mem_map.mp h
  obtain ⟨⟨j, k⟩, hj, hsome⟩ := List.mem_filterMap.mp (List.mem_mergeSort.mp hmem)
  dsimp only at hsome
  split at hsome
  · next v hphase =>
    obtain ⟨-, rfl⟩ := Prod.mk.inj (Option.some.inj hsome)
    exact ⟨j, v, List.mem_zipIdx_iff_getElem?.mp hj, hphase⟩
  · exact nomatch hsome

/-- **After a shutdown the background is quiet.** -/
theorem isQuiet_shutDown (s : Runs) : (shutDown s).IsQuiet := by
  refine Session.isQuiet_drain_of_hurried fun j hj => ?_
  rw [Session.foldl_cancel_world]
  refine Session.foldl_cancel_hurried _ s (fun i j hj => ?_) j hj
  by_cases hmem : i ∈ endedRuns s
  · obtain ⟨j', v, hj', hphase⟩ := hasEnded_of_mem_endedRuns hmem
    obtain rfl := Option.some.inj (hj'.symm.trans hj)
    exact .inr (.inl (by rw [Job.rest?, hphase]))
  · obtain ⟨hi, -⟩ := List.getElem?_eq_some_iff.mp hj
    exact .inl (List.mem_reverse.mpr (mem_placesAfter hi hmem))

theorem goesOn_shutDown (s : Runs) : s.GoesOn (shutDown s) :=
  (Session.goesOn_cancel s _).trans (Session.goesOn_drain _)

/-- A run is suspended at a place of the background. -/
def IsSuspended (s : Runs) (i : Nat) : Prop := ∃ j ∈ s.jobs[i]?, j.IsSuspended s.world.time

instance (s : Runs) (i : Nat) : Decidable (IsSuspended s i) :=
  inferInstanceAs (Decidable (∃ j ∈ s.jobs[i]?, j.IsSuspended s.world.time))

/-- **A shutdown cuts short what is suspended.** -/
theorem exists_plays_shutDown {sys : System} {calls : List Call} {s : Runs} (h : sys.Plays calls s) :
    ∃ sys', System.Reaches .undisturbed sys sys' ∧ sys'.Plays calls (shutDown s) ∧
      ∀ i, IsSuspended s i → ¬ Transcript.Calm (sys'.past i) := by
  obtain ⟨sys₁, hreach₁, h₁, hcut⟩ :=
    h.foldl_cancel (placesAfter s.jobs.length (endedRuns s)).reverse
  obtain ⟨sys₂, hreach₂, h₂⟩ := h₁.goesOn (Session.goesOn_drain _)
  refine ⟨sys₂, hreach₁.trans hreach₂, h₂, ?_⟩
  rintro i ⟨j, hj, hsuspended⟩
  have hmem : i ∈ placesAfter s.jobs.length (endedRuns s) := by
    obtain ⟨hi, -⟩ := List.getElem?_eq_some_iff.mp hj
    refine mem_placesAfter hi fun hmem => ?_
    obtain ⟨j', v, hj', hphase⟩ := hasEnded_of_mem_endedRuns hmem
    obtain rfl := Option.some.inj (hj'.symm.trans hj)
    obtain ⟨wake, next, hwaits, -⟩ := hsuspended
    exact nomatch hphase.symm.trans hwaits
  -- what a run has been through it does not forget
  obtain ⟨more, hmore⟩ := hreach₂.past_prefix i
  rw [← hmore, Transcript.calm_append, not_and_or]
  exact .inl (hcut i (List.mem_reverse.mpr hmem) j hj hsuspended)

end Scheduler

end Flowgraph
