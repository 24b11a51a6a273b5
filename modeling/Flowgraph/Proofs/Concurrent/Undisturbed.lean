import Mathlib.Data.List.Perm.Subperm
import Flowgraph.Proofs.Concurrent.Events
import Flowgraph.Proofs.Concurrent.Isolation
import Flowgraph.Proofs.Concurrent.Reused
import Flowgraph.Proofs.Store.Slots

/-!
# Executions that nobody disturbs

Executions go on at the same time, request by request, and apart from them nothing happens but that
time passes (`Rules.undisturbed`).  Any number of them may be executions of one flow.  Then the flows
that can be loaded are at every moment those that could be loaded at first (`World.Keeps.loads`): an
execution stores lives only, for a flow that it has loaded, and each last run that it stores was loaded
or is a reading of the clock (`Flows.execute_meets_lastRun`), which is read back again.  So each
execution leaves one record if its flow could be loaded at first, and else none, and nothing else comes
into the log (`System.Reaches.kept`, `Flows.Executed.of_served`).

A store in memory takes and reads back whatever an execution brings.  For one in rows it is an
assumption, `World.ReadyUntil`, on the clock and on the ids of the runs.
-/

namespace Flowgraph

/-- **Nothing happens but that time passes**, and no request is refused. -/
def Rules.undisturbed : Rules := ⟨fun w w' => ∃ time, w' = { w with time }, fun _ => False⟩

theorem Answers.of_undisturbed {isCancelled : Bool} {w w' : World} {q : Request} {a : q.Answer}
    (h : Answers .undisturbed isCancelled w q a w') :
    w' = (w.answer isCancelled q).2 ∧ ((∀ n, q ≠ .wait n) → a = (w.answer isCancelled q).1) := by
  cases h with
  | answered => exact ⟨rfl, fun _ => rfl⟩
  | elapsed n => exact ⟨rfl, fun hq => absurd rfl (hq n)⟩
  | refused _ hq _ _ _ => exact hq.elim

/-! ### What an execution stores -/

section Contracts

variable {rely : (q : Request) → q.Answer → Prop} {guarantee : Request → Prop} {x : Executor}
  {id : String} {flow : Flow} {ctx : Context} {P : Option Instant → Prop}

/-- **The last run that a run leaves** is the one that there was, or a reading of the clock. -/
theorem Executor.run_meets_lastRun (hasks : ∀ q, RunAsks q → guarantee q)
    (hflow : P flow.lastRun) (hclock : ∀ t, rely .clock t → P (some t)) :
    (x.run flow ctx).Meets rely guarantee fun fin => P fin.flow.lastRun := by
  have hname := hasks .freshRunId trivial
  have hlook := hasks .clock trivial
  have htell : ∀ e, guarantee (.publish e) := fun e => hasks (.publish e) trivial
  have hlog : ∀ r, guarantee (.append r) := fun r => hasks (.append r) trivial
  cases htrig : flow.trigger? with
  | none =>
    rw [run_of_no_trigger htrig]
    -- the flow is left as it was
    exact ⟨hname, fun _ _ => ⟨hlook, fun _ _ => ⟨hlook, fun _ _ => ⟨htell _, fun _ _ =>
      ⟨hlog _, fun _ _ => hflow⟩⟩⟩⟩⟩
  | some v =>
    rw [run_of_trigger htrig]
    refine ⟨hname, fun runId _ => ⟨hlook, fun startedAt hstarted => ⟨htell _, fun _ _ =>
      ⟨htell _, fun _ _ => ?_⟩⟩⟩⟩
    have hwalk : (x.walk flow.graph runId flow.id x.limit v ⟨ctx, []⟩).Meets rely guarantee
        fun _ => True :=
      (walk_meets x flow.graph runId flow.id x.limit v ⟨ctx, []⟩).mono (fun _ _ _ => trivial)
        (fun q hq => hasks q (Executor.runAsks_of_asks hq)) fun _ _ => trivial
    -- the start of the run is a reading of the clock
    exact hwalk.bind fun e _ => ⟨hlook, fun _ _ => ⟨htell _, fun _ _ => ⟨htell _, fun _ _ =>
      ⟨hlog _, fun _ _ => hclock startedAt hstarted⟩⟩⟩⟩

open Attempt (meets_bind meets_lift meets_pure) in
/-- **An execution stores lives for the flow that it has loaded**, and no last run but the one that it
has loaded or a reading of the clock. -/
theorem Flows.execute_meets_lastRun (hget : guarantee (.get id))
    (hasks : ∀ q, Executor.RunAsks q → guarantee q)
    (hflow : ∀ flow, rely (.get id) (.ok (some flow)) → P flow.lastRun)
    (hclock : ∀ t, rely .clock t → P (some t))
    (hlife : ∀ flow, rely (.get id) (.ok (some flow)) → ∀ status lastRun, P lastRun →
      guarantee (.setLife id status lastRun)) :
    (execute x id ctx).Meets rely guarantee fun _ => True := by
  rw [execute_eq]
  refine meets_bind (get_meets hget) fun flow hfound => ?_
  -- at its end it stores the last run that the run has left
  have hlaunch : (launch x id flow ctx).Meets rely guarantee fun _ => True := by
    have hrun : (x.run flow ctx).Meets rely guarantee fun fin => P fin.flow.lastRun :=
      Executor.run_meets_lastRun hasks (hflow flow hfound) hclock
    refine meets_bind (meets_lift hrun) fun fin hfin => ?_
    split
    · exact meets_bind (meets_lift (request_meets (hlife flow hfound _ _ hfin))) fun _ _ =>
        meets_pure trivial
    · exact meets_pure trivial
  split
  · exact meets_bind (P := fun _ => True)
      ⟨hlife flow hfound _ _ (hflow flow hfound), fun _ _ _ _ => trivial⟩ fun _ _ => hlaunch
  · exact hlaunch

end Contracts

/-! ### Flows that can be loaded -/

/-- A flow can be loaded by its id. -/
def Store.Loads (s : Store) (id : String) : Prop := ∃ flow, s.get id = .ok (some flow)

/-- **A request is answered as by a store that keeps its flows**: what could be loaded at first can
be, a life that is stored is taken, and a last run that is loaded or a reading of the clock is read
back. -/
def Request.Served (first : Store) : (q : Request) → q.Answer → Prop
  | .get id, found => ((∃ flow, found = .ok (some flow)) ↔ first.Loads id) ∧
      ∀ flow, found = .ok (some flow) → flow.id = id ∧ first.ReadsBack flow.lastRun
  | .setLife _ _ _, stored => stored = .ok ()
  | .clock, t => first.ReadsBack (some t)
  | _, _ => True

/-- **A request keeps the flows**: it stores a life for a flow that could be loaded at first, with a
last run that is read back, or does not change the flows. -/
def Request.KeepsFlows (first : Store) : Request → Prop
  | .setLife id _ lastRun => first.Loads id ∧ first.ReadsBack lastRun
  | .insert _ | .update _ | .delete _ | .freshFlowId => False
  | _ => True

/-- **An execution keeps the flows** as long as it is served. -/
theorem Call.execute_meets_keepsFlows (first : Store) (x : Executor) (id : String) (ctx : Context) :
    (execute x id ctx).operation.Meets (Request.Served first) (Request.KeepsFlows first)
      fun _ => True := by
  refine Attempt.reply_meets (Flows.execute_meets_lastRun (P := first.ReadsBack) trivial
    (fun q hq => ?_) (fun flow hfound => (hfound.2 flow rfl).2) (fun _ ht => ht)
    fun flow hfound _ _ hlast => ⟨hfound.1.mp ⟨flow, rfl⟩, hlast⟩)
  cases q <;> first | exact trivial | exact hq.elim

/-- **A world keeps the flows of a store**: it is in order, the same flows can be loaded, and the last
runs are read back. -/
structure World.Keeps (first : Store) (w : World) : Prop where
  orderly : w.store.Orderly
  loads : ∀ id, w.store.Loads id ↔ first.Loads id
  lastRuns : ∀ id flow, w.store.get id = .ok (some flow) → first.ReadsBack flow.lastRun
  readsBack : ∀ lastRun, first.ReadsBack lastRun → w.store.ReadsBack lastRun

namespace World.Keeps

variable {first : Store} {w : World}

theorem of_same (h : w.Keeps first) {w' : World} (horderly : w'.store.Orderly)
    (hget : ∀ id, w'.store.get id = w.store.get id)
    (hreads : ∀ lastRun, w.store.ReadsBack lastRun → w'.store.ReadsBack lastRun) :
    w'.Keeps first where
  orderly := horderly
  loads id := by rw [Store.Loads, hget]; exact h.loads id
  lastRuns id flow hflow := h.lastRuns id flow ((hget id).symm.trans hflow)
  readsBack lastRun hlast := hreads lastRun (h.readsBack lastRun hlast)

/-- **A life is stored** for a flow that can be loaded. -/
theorem setLife (h : w.Keeps first) {id : String} (hloads : first.Loads id) (status : Status)
    {lastRun : Option Instant} (hlast : first.ReadsBack lastRun) (isCancelled : Bool) :
    (w.answer isCancelled (.setLife id status lastRun)).2.Keeps first := by
  obtain ⟨old, hold⟩ := (h.loads id).mpr hloads
  have hnew := h.orderly.replaces_setLife hold status (h.readsBack lastRun hlast)
  refine ⟨World.answer_orderly h.orderly isCancelled (.setLife id status lastRun), fun other => ?_,
    fun other flow hflow => ?_, fun t ht => ?_⟩
  · -- the flow can still be loaded, and so can all others
    by_cases hother : other = id
    · subst hother
      exact ⟨fun _ => hloads, fun _ => ⟨_, hnew.get_self⟩⟩
    · refine Iff.trans ?_ (h.loads other)
      show (∃ flow, (w.store.setLife id status lastRun).2.get other = _) ↔ _
      rw [hnew.get_other other hother]
      exact Iff.rfl
  · by_cases hother : other = id
    · subst hother
      obtain rfl := Option.some.inj (Except.ok.inj (hnew.get_self.symm.trans hflow))
      exact hlast
    · exact h.lastRuns other flow ((hnew.get_other other hother).symm.trans hflow)
  · exact h.orderly.readsBack_setLife id status lastRun (h.readsBack t ht)

/-- **A request that keeps the flows is served**, and leaves a world that keeps them. -/
theorem answer (h : w.Keeps first) (isCancelled : Bool) {q : Request} (hq : q.KeepsFlows first)
    (hclock : q = .clock → first.ReadsBack (some w.clock)) :
    (w.answer isCancelled q).2.Keeps first ∧ q.Served first (w.answer isCancelled q).1 := by
  cases q with
  | get id =>
    refine ⟨h, h.loads id, fun flow hflow => ⟨?_, h.lastRuns id flow hflow⟩⟩
    exact (Store.exists_tells_of_get hflow).1
  | setLife id status lastRun =>
    exact ⟨h.setLife hq.1 status hq.2 isCancelled, h.orderly.setLife_took id status lastRun⟩
  | append r =>
    exact ⟨h.of_same (World.answer_orderly h.orderly isCancelled (.append r))
      (w.store.seen_append r).1 fun _ => Store.readsBack_append r, trivial⟩
  | clock => exact ⟨h.of_same h.orderly (fun _ => rfl) fun _ hlast => hlast, hclock rfl⟩
  | insert _ | update _ | delete _ | freshFlowId => exact hq.elim
  | _ => exact ⟨h.of_same h.orderly (fun _ => rfl) fun _ hlast => hlast, trivial⟩

end World.Keeps

/-! ### What a store in rows takes -/

/-- **The readings of the clock to come**, if nobody sets it. -/
def World.reading (w : World) : Nat → Instant
  | 0 => w.clock
  | n + 1 => (w.reading n).addNanos 1000

/-- The log takes a record of each of some runs: in memory always, and in rows if no two of them have
one id and the log has none. -/
def Store.Admits (s : Store) (runIds : List String) : Prop :=
  match s.entries with
  | .inl _ => True
  | .inr runs => (runs.map (·.runId) ++ runIds).Nodup

/-- **What is stored until another moment is taken and read back.**  In memory it always is.  In rows
the last runs that are stored have to be legible, and so do the readings of the clock until then; and
no id of a run may be made twice, or be one that the log has. -/
structure World.ReadyUntil (w w' : World) : Prop where
  lastRuns : ∀ id flow, w.store.get id = .ok (some flow) → w.store.ReadsBack flow.lastRun
  clock : ∀ n, w'.clock = w.reading n → ∀ k < n, w.store.ReadsBack (some (w.reading k))
  runIds : ∀ n, w'.made = w.made + n →
    w.store.Admits ((List.range' w.made n).map World.runId)

/-- **A store in memory is ready for anything.** -/
theorem World.readyUntil_of_memory {w : World} {m : MemoryStore} (hw : w.store = .memory m)
    (w' : World) : w.ReadyUntil w' := by
  refine ⟨fun _ _ _ => ?_, fun _ _ _ _ => ?_, fun _ _ => ?_⟩ <;>
  · rw [hw]
    exact trivial

namespace Store

/-- A log with some more records behind the others. -/
def withRecords (records : List Record) (entries : List Record ⊕ List RunRow) :
    List Record ⊕ List RunRow :=
  records.foldl (fun entries r => withRecord r entries) entries

theorem withRecords_append (records more : List Record) (entries : List Record ⊕ List RunRow) :
    withRecords (records ++ more) entries = withRecords more (withRecords records entries) :=
  List.foldl_append

theorem withRecords_inl (records log : List Record) :
    withRecords records (.inl log) = .inl (log ++ records) := by
  induction records generalizing log with
  | nil => rw [List.append_nil]; rfl
  | cons r rest ih =>
    refine (ih (log ++ [r])).trans ?_
    rw [List.append_assoc, List.singleton_append]

theorem withRecords_inr (records : List Record) (log : List RunRow) :
    withRecords records (.inr log) = .inr (log ++ records.map .ofRecord) := by
  induction records generalizing log with
  | nil => rw [List.map_nil, List.append_nil]; rfl
  | cons r rest ih =>
    refine (ih (log ++ [.ofRecord r])).trans ?_
    rw [List.append_assoc, List.singleton_append, List.map_cons]

/-- **A log takes the last of some records** that it admits. -/
theorem lacks_of_admits {s s' : Store} {records : List Record} {r : Record}
    (hs' : s'.entries = withRecords records s.entries)
    (h : s.Admits ((records ++ [r]).map (·.runId))) : s'.Lacks r.runId := by
  unfold Lacks
  unfold Admits at h
  rw [hs']
  cases hentries : s.entries with
  | inl log =>
    rw [withRecords_inl]
    trivial
  | inr log =>
    rw [hentries] at h
    rw [withRecords_inr]
    -- the new id differs from those of the log and from those of the records before
    have hids : ((log.map (·.runId) ++ records.map (·.runId)) ++ [r.runId]).Nodup := by
      rw [List.append_assoc]
      simpa using h
    intro row hrow heq
    refine (List.nodup_append.mp hids).2.2 row.runId ?_ r.runId (List.mem_singleton_self _) heq
    rcases List.mem_append.mp hrow with hold | hnew
    · exact List.mem_append_left _ (List.mem_map_of_mem hold)
    · obtain ⟨r', hr', rfl⟩ := List.mem_map.mp hnew
      exact List.mem_append_right _ (List.mem_map.mpr ⟨r', hr', rfl⟩)

theorem Admits.of_subperm {s : Store} {ids ids' : List String} (h : s.Admits ids)
    (hsub : ids'.Subperm ids) : s.Admits ids' := by
  unfold Admits at h ⊢
  cases hentries : s.entries with
  | inl log => trivial
  | inr log =>
    rw [hentries] at h
    obtain ⟨hlog, hids, hapart⟩ := List.nodup_append.mp h
    refine List.nodup_append.mpr ⟨hlog, ?_, fun a ha b hb => hapart a ha b (hsub.subset hb)⟩
    obtain ⟨l, hperm, hl⟩ := hsub
    exact hperm.nodup_iff.mp (hids.sublist hl)

end Store

/-- **A request that keeps the flows** adds to the log the record that it is for, if it is for one that
the log lacks. -/
theorem World.Keeps.entries_answer {first : Store} {w : World} (h : w.Keeps first)
    (isCancelled : Bool) {q : Request} (hq : q.KeepsFlows first) (a : q.Answer)
    (hlacks : ∀ r, q = .append r → w.store.Lacks r.runId) :
    (w.answer isCancelled q).2.store.entries
      = Store.withRecords (Transcript.record? ⟨q, a⟩).toList w.store.entries := by
  cases q with
  | append r => exact h.orderly.hasTables.entries_append (hlacks r rfl)
  | setLife id status lastRun => exact h.orderly.hasTables.entries_setLife id status lastRun
  | insert _ | update _ | delete _ | freshFlowId => exact hq.elim
  | _ => rfl

/-! ### Executions among themselves -/

namespace System

variable {rules : Rules} {s s' : System} {w : World}

/-- All calls are executions. -/
def OnlyRuns (s : System) : Prop := ∀ t ∈ s.tasks, ∃ x id ctx, t.call = .execute x id ctx

theorem Step.onlyRuns (h : Step rules s s') (hs' : s'.OnlyRuns) : s.OnlyRuns := by
  intro t ht
  -- no call goes away
  obtain ⟨t', ht', hcall⟩ := h.call_mem ⟨t, ht, rfl⟩
  exact hcall ▸ hs' t' ht'

/-- What the calls have been through so far. -/
def pasts (s : System) : List Transcript := s.tasks.map (·.past)

/-- **What a step does to all transcripts**: one exchange is added to that of one call, or at most an
empty one comes in, while the world stays or others change it. -/
theorem Step.pasts_cases (h : Step rules s s') :
    ((s'.world = s.world ∨ rules.changes s.world s'.world) ∧
        (s'.pasts = s.pasts ∨ s'.pasts = s.pasts ++ [[]])) ∨
      ∃ i t q next a, s.tasks[i]? = some t ∧ t.rest = .ask q next ∧
        Answers rules t.isCancelled s.world q a s'.world ∧ s.pasts[i]? = some t.past ∧
        s'.pasts = s.pasts.set i (t.past ++ [⟨q, a⟩]) := by
  -- each call has its transcript at its place
  have hpast : ∀ {i : Nat} {t : Task}, s.tasks[i]? = some t → s.pasts[i]? = some t.past := by
    intro i t hi
    rw [pasts, List.getElem?_map, hi]
    rfl
  cases h with
  | call call => exact .inl ⟨.inl rfl, .inr (by rw [pasts, List.map_append]; rfl)⟩
  | change hw => exact .inl ⟨.inr hw, .inl rfl⟩
  | @cancel i t hi =>
    refine .inl ⟨.inl rfl, .inl ?_⟩
    obtain ⟨hlt, hget⟩ := List.getElem?_eq_some_iff.mp (hpast hi)
    rw [pasts, List.map_set]
    show s.pasts.set i t.past = s.pasts
    rw [← hget, List.set_getElem_self]
  | @exchange i t hi q next hrest a w ha =>
    exact .inr ⟨i, t, q, next, a, hi, hrest, ha, hpast hi, List.map_set⟩

/-- **What executions have asked for of a world** that counts: some readings of the clock, and an id for
each run of theirs. -/
structure Counted (w : World) (s : System) : Prop where
  clock : ∃ n, s.world.clock = w.reading n
  made : ∃ n, s.world.made = w.made + n ∧
    (s.pasts.flatMap Transcript.runIds).Perm ((List.range' w.made n).map World.runId)

/-- **What executions have left of a world** whose store keeps its flows: they have been served, and the
log has their records behind those that it had. -/
structure Kept (w : World) (s : System) : Prop where
  world : s.world.Keeps w.store
  served : ∀ past ∈ s.pasts, ∀ e ∈ past, e.1.Served w.store e.2
  log : ∃ new, s.world.store.entries = Store.withRecords new w.store.entries ∧
    new.Perm (s.pasts.flatMap Transcript.appended)

/-! ### One step -/

theorem keepsFlows_of_rest {t : Task} (ht : t.Sound) {x : Executor} {id : String} {ctx : Context}
    (hcall : t.call = .execute x id ctx) {first : Store}
    (hserved : ∀ e ∈ t.past, e.1.Served first e.2) {q : Request}
    {next : q.Answer → Operation (Except Fault Reply)} (hrest : t.rest = .ask q next) :
    q.KeepsFlows first := by
  have hmeets := (hcall ▸ Call.execute_meets_keepsFlows first x id ctx :
    t.call.operation.Meets _ _ _).after ht.after hserved
  rw [hrest] at hmeets
  exact hmeets.1

theorem Counted.step (hs : s.Counted w) (h : Step .undisturbed s s')
    (hasks : ∀ t ∈ s.tasks, ∀ q next, t.rest = .ask q next → q ≠ .freshFlowId) : s'.Counted w := by
  obtain ⟨n, hclock⟩ := hs.clock
  obtain ⟨m, hmade, hperm⟩ := hs.made
  rcases h.pasts_cases with ⟨hworld, hpasts⟩ | ⟨i, t, q, next, a, hi, hrest, ha, hpast, hpasts⟩
  · -- neither the clock nor the number of ids has changed
    have hsame : s'.world.clock = s.world.clock ∧ s'.world.made = s.world.made := by
      rcases hworld with hworld | ⟨time, hworld⟩ <;> rw [hworld] <;> exact ⟨rfl, rfl⟩
    refine ⟨⟨n, hsame.1.trans hclock⟩, m, hsame.2.trans hmade, ?_⟩
    rcases hpasts with hpasts | hpasts
    · rwa [hpasts]
    · simpa [hpasts] using hperm
  · obtain ⟨hworld, hanswer⟩ := ha.of_undisturbed
    -- the ids of the runs are those from before and, it may be, one that has just been made
    have hids : (s'.pasts.flatMap Transcript.runIds).Perm
        (s.pasts.flatMap Transcript.runIds ++ (Transcript.runId? ⟨q, a⟩).toList) := by
      rw [hpasts]
      exact perm_flatMap_set hpast (by rw [Transcript.runIds_append, Transcript.runIds_cons,
        Transcript.runIds_nil, List.append_nil])
    have hfresh := hasks t (List.mem_of_getElem? hi) q next hrest
    -- the clock goes on with each reading, and the next id with each id that is made
    have hclock' := congrArg World.clock hworld
    have hmade' := congrArg World.made hworld
    cases q with
    | freshFlowId => exact absurd rfl hfresh
    | clock =>
      refine ⟨⟨n + 1, hclock'.trans (congrArg (Instant.addNanos · 1000) hclock)⟩, m,
        hmade'.trans hmade, hids.trans ?_⟩
      exact (List.append_nil _).symm ▸ hperm
    | freshRunId =>
      have hid : a = World.runId (w.made + m) := by
        rw [hanswer nofun, ← hmade]
        rfl
      refine ⟨⟨n, hclock'.trans hclock⟩, m + 1, hmade'.trans (congrArg (· + 1) hmade),
        hids.trans ?_⟩
      -- the new id continues the range of those made so far
      rw [List.range'_concat, Nat.one_mul, List.map_append, hid]
      exact hperm.append_right _
    | _ =>
      exact ⟨⟨n, hclock'.trans hclock⟩, m, hmade'.trans hmade,
        hids.trans ((List.append_nil _).symm ▸ hperm)⟩

/-- One step takes one reading of the clock and one number for an id at most. -/
theorem Step.counts (h : Step .undisturbed s s') :
    (s'.world.clock = s.world.clock ∨ s'.world.clock = s.world.clock.addNanos 1000) ∧
      (s'.world.made = s.world.made ∨ s'.world.made = s.world.made + 1) := by
  rcases h.pasts_cases with ⟨hworld, -⟩ | ⟨i, t, q, next, a, -, -, ha, -, -⟩
  · rcases hworld with hworld | ⟨time, hworld⟩ <;> rw [hworld] <;> exact ⟨.inl rfl, .inl rfl⟩
  · rw [ha.of_undisturbed.1]
    cases q with
    | clock => exact ⟨.inr rfl, .inl rfl⟩
    | freshFlowId => exact ⟨.inr rfl, .inr rfl⟩
    | freshRunId => exact ⟨.inl rfl, .inr rfl⟩
    | _ => exact ⟨.inl rfl, .inl rfl⟩

/-- A world that is ready until later is ready until now. -/
theorem Step.readyUntil (h : Step .undisturbed s s') (hready : w.ReadyUntil s'.world) :
    w.ReadyUntil s.world := by
  obtain ⟨hclock, hmade⟩ := h.counts
  refine ⟨hready.lastRuns, fun n hn k hk => ?_, fun n hn => ?_⟩
  · -- what has been read or made until now will have been until later
    rcases hclock with hsame | hmore
    · exact hready.clock n (hsame.trans hn) k hk
    · exact hready.clock (n + 1) (hmore.trans (congrArg (Instant.addNanos · 1000) hn)) k
        (Nat.lt_succ_of_lt hk)
  · rcases hmade with hsame | hmore
    · exact hready.runIds n (hsame.trans hn)
    · refine (hready.runIds (n + 1) (hmore.trans (congrArg (· + 1) hn))).of_subperm ?_
      rw [List.range'_concat, List.map_append]
      exact (List.sublist_append_left _ _).subperm

/-- **The log admits the records of executions**, which come under ids that have been made for them. -/
theorem Counted.admits (hs : s.Counted w) (hsound : ∀ t ∈ s.tasks, t.Sound)
    (hready : w.ReadyUntil s.world) {new : List Record}
    (hnew : new.Perm (s.pasts.flatMap Transcript.appended)) :
    w.store.Admits (new.map (·.runId)) := by
  obtain ⟨n, hmade, hperm⟩ := hs.made
  have hids : ((s.pasts.flatMap Transcript.appended).map (·.runId)).Sublist
      (s.pasts.flatMap Transcript.runIds) := by
    rw [pasts, List.flatMap_map, List.flatMap_map, List.map_flatMap]
    exact List.Sublist.flatMap_right _ fun t ht => (hsound t ht).appended_runIds
  exact (hready.runIds n hmade).of_subperm
    (((hnew.map _).subperm.trans hids.subperm).trans hperm.subperm)

/-- What the clock shows can be read back, as long as the world is ready until after that. -/
theorem Counted.readsBack (hs : s.Counted w) {w' : World} (hready : w.ReadyUntil w')
    (hclock : w'.clock = s.world.clock.addNanos 1000) : w.store.ReadsBack (some s.world.clock) := by
  obtain ⟨n, hn⟩ := hs.clock
  rw [hn]
  exact hready.clock (n + 1) (hclock.trans (congrArg (Instant.addNanos · 1000) hn)) n
    (Nat.lt_succ_self n)

/-- Nothing is left of a world that was not before, when the store is as it was and no call has been
answered anything. -/
theorem Kept.of_silent (hs : s.Kept w) (hstore : s'.world.store = s.world.store)
    (hpasts : s'.pasts = s.pasts ∨ s'.pasts = s.pasts ++ [[]]) : s'.Kept w := by
  obtain ⟨new, hentries, hperm⟩ := hs.log
  refine ⟨hs.world.of_same (hstore ▸ hs.world.orderly) (fun id => by rw [hstore])
    fun lastRun hlast => by rwa [hstore], fun past hmem => ?_, new, by rw [hstore, hentries], ?_⟩
  · -- a transcript is one that there was, or the empty one of a new call
    rcases hpasts with hpasts | hpasts
    · exact hs.served past (hpasts ▸ hmem)
    · rw [hpasts, List.mem_append, List.mem_singleton] at hmem
      rcases hmem with hmem | rfl
      · exact hs.served past hmem
      · exact fun e he => absurd he List.not_mem_nil
  · rcases hpasts with hpasts | hpasts
    · rwa [hpasts]
    · simpa [hpasts] using hperm

/-- **A step of executions** leaves the store with its flows and with their records. -/
theorem Kept.step (hs : s.Kept w) (hcount : s.Counted w) (hcount' : s'.Counted w)
    (hsound : ∀ t ∈ s.tasks, t.Sound) (hsound' : ∀ t ∈ s'.tasks, t.Sound) (honly : s.OnlyRuns)
    (h : Step .undisturbed s s') (hready : w.ReadyUntil s'.world) : s'.Kept w := by
  rcases h.pasts_cases with ⟨hworld, hpasts⟩ | ⟨i, t, q, next, a, hi, hrest, ha, hpast, hpasts⟩
  · refine hs.of_silent ?_ hpasts
    rcases hworld with hworld | ⟨time, hworld⟩ <;> rw [hworld]
  -- an execution has been answered one of its requests, which keeps the flows
  have hmem := List.mem_of_getElem? hi
  obtain ⟨x, id, ctx, hcall⟩ := honly t hmem
  obtain ⟨hworld, hanswer⟩ := ha.of_undisturbed
  have hserved := hs.served t.past (List.mem_of_getElem? hpast)
  have hkeeps := keepsFlows_of_rest (hsound t hmem) hcall hserved hrest
  -- the clock reads an instant that the store can read back
  have hreading : q = .clock → w.store.ReadsBack (some s.world.clock) := by
    rintro rfl
    exact hcount.readsBack hready (congrArg World.clock hworld)
  obtain ⟨hkept, hq⟩ := hs.world.answer t.isCancelled hkeeps hreading
  -- its record, if this is one, comes behind those that the log has got so far
  obtain ⟨new, hentries, hperm⟩ := hs.log
  have hperm' : (new ++ (Transcript.record? ⟨q, a⟩).toList).Perm
      (s'.pasts.flatMap Transcript.appended) := by
    rw [hpasts]
    refine (hperm.append_right _).trans (perm_flatMap_set hpast ?_).symm
    rw [Transcript.appended_append, Transcript.appended_cons, Transcript.appended_nil,
      List.append_nil]
  refine ⟨hworld ▸ hkept, fun past hmem' => ?_, _, ?_, hperm'⟩
  · rw [hpasts] at hmem'
    rcases List.mem_or_eq_of_mem_set hmem' with hold | rfl
    · exact hs.served past hold
    · refine List.forall_mem_append.mpr ⟨hserved, List.forall_mem_singleton.mpr ?_⟩
      -- a wait is served in whichever way it ends
      rcases q.wait_cases with ⟨n, rfl⟩ | hwait
      · exact trivial
      · exact hanswer hwait ▸ hq
  · have hadmits := hcount'.admits hsound' hready hperm'
    rw [Store.withRecords_append, ← hentries, hworld]
    refine hs.world.entries_answer t.isCancelled hkeeps a ?_
    rintro r rfl
    exact Store.lacks_of_admits hentries hadmits

/-- **Whatever executions nobody disturbs do**, the store keeps its flows and gets their records. -/
theorem Reaches.kept (hs : Reaches .undisturbed (.idle w) s) (hw : w.store.Orderly)
    (honly : s.OnlyRuns) (hready : w.ReadyUntil s.world) : s.Counted w ∧ s.Kept w := by
  -- by induction on the steps: no other call has come in before, and the world was ready before
  induction hs with
  | refl =>
    refine ⟨⟨⟨0, rfl⟩, 0, rfl, .nil⟩, ⟨hw, fun _ => Iff.rfl, hready.lastRuns, fun _ h => h⟩, ?_, ?_⟩
    · exact fun past hpast => absurd hpast List.not_mem_nil
    · exact ⟨[], rfl, .nil⟩
  | @tail s₁ s₂ hs₁ hstep ih =>
    have hsound : ∀ t ∈ s₁.tasks, t.Sound := fun t => Reaches.sound hs₁
    have hsound' : ∀ t ∈ s₂.tasks, t.Sound := fun t => Reaches.sound (hs₁.tail hstep)
    have honly₁ := hstep.onlyRuns honly
    obtain ⟨hcount, hkept⟩ := ih honly₁ (hstep.readyUntil hready)
    -- an execution makes no id of a flow
    have hcount' := hcount.step hstep fun t ht q next hrest heq => by
      obtain ⟨x, id, ctx, hcall⟩ := honly₁ t ht
      have hkeeps := keepsFlows_of_rest (hsound t ht) hcall
        (hkept.served t.past (List.mem_map_of_mem ht)) hrest
      rw [heq] at hkeeps
      exact hkeeps
    exact ⟨hcount', hkept.step hcount hcount' hsound hsound' honly₁ hstep hready⟩

/-- **The stream of events** has what the executions have told behind what was there before. -/
theorem Reaches.heard (hs : Reaches .undisturbed (.idle w) s) :
    ∃ told : List Event, s.world.unread = told.reverse ++ w.unread ∧
      told.Perm (s.pasts.flatMap Transcript.published) := by
  induction hs with
  | refl => exact ⟨[], rfl, .nil⟩
  | tail _ hstep ih =>
    obtain ⟨told, hunread, hperm⟩ := ih
    rcases hstep.pasts_cases with ⟨hworld, hpasts⟩ | ⟨i, t, q, next, a, -, -, ha, hpast, hpasts⟩
    · refine ⟨told, ?_, ?_⟩
      · rcases hworld with hworld | ⟨time, hworld⟩ <;> rw [hworld, hunread]
      · rcases hpasts with hpasts | hpasts
        · rwa [hpasts]
        · simpa [hpasts] using hperm
    · -- the call that goes on has told what is new in the stream
      refine ⟨told ++ (Transcript.event? ⟨q, a⟩).toList, ?_, ?_⟩
      · rw [ha.unread, hunread, List.reverse_append, List.append_assoc]
        cases Transcript.event? ⟨q, a⟩ <;> rfl
      · rw [hpasts]
        refine (hperm.append_right _).trans (perm_flatMap_set hpast ?_).symm
        rw [Transcript.published_append, Transcript.published_cons, Transcript.published_nil,
          List.append_nil]

end System

/-! ### What one execution leaves -/

/-- **The record that an execution leaves**, if its flow can be loaded: it names the flow, and its
trigger is what the execution has been given. -/
structure Record.OfExecution (first : Store) (id : String) (ctx : Context) (r : Record) : Prop where
  loads : first.Loads id
  flowId : r.flowId = id
  trigger : r.trigger = ctx.input

/-- The record of a run that has failed because it was cancelled. -/
def Record.IsCancelled (r : Record) : Prop :=
  r.success = false ∧ ∃ nodeId, r.error = some ⟨"cancelled", "Run cancelled", some nodeId⟩

section Outcome

variable {first : Store} {t : Task} {x : Executor} {id : String} {ctx : Context}

/-- The record of a run of the flow that has been loaded. -/
theorem Record.OfExecution.of_ran {flow : Flow} {fin : Executor.Finished} {tr : Transcript}
    (hget : (Request.get id).Served first (.ok (some flow))) (hrun : Executor.Ran x flow ctx tr fin) :
    fin.record.OfExecution first id ctx :=
  ⟨hget.1.mp ⟨flow, rfl⟩, hrun.record.1.trans (hget.2 flow rfl).1, hrun.record.2⟩

/-- **What comes of an execution that is served**: nothing if its flow could not be loaded at first, and
else one record, which is cancelled if the run has found out that it is. -/
theorem Flows.Executed.of_served {past : Transcript} {r : Except Fault Executor.Finished}
    (h : Executed x id ctx past r) (hserved : ∀ e ∈ past, e.1.Served first e.2) :
    (¬ first.Loads id ∧ past.appended = []) ∨
      ∃ record, past.appended = [record] ∧ record.OfExecution first id ctx ∧
        (¬ past.Calm → record.IsCancelled) := by
  rcases h.outcome with ⟨⟨e, rfl⟩, hnone⟩ | ⟨flow, fin, tr, rfl, hhead, hrun, hlooks, hone⟩
  · refine .inl ⟨?_, hnone⟩
    cases h with
    | notLoaded found hfound _ =>
      have hget := hserved ⟨.get id, found⟩ (List.mem_cons_self ..)
      exact fun hloads => (hget.1.mpr hloads).elim fun flow hflow => hfound flow hflow
    | refused flow _ _ =>
      -- a life that is stored is taken
      exact nomatch hserved _ (List.mem_cons_of_mem _ (List.mem_singleton_self _))
  · -- the record is that of the run of the flow that has been loaded
    have hran := Executor.run_ran hrun
    have hget := hserved ⟨.get id, .ok (some flow)⟩ (List.mem_of_mem_head? hhead)
    refine .inr ⟨fin.record, hone, .of_ran hget hran, fun hcut => ?_⟩
    refine hran.cancelled fun hcalm => hcut ?_
    rwa [Transcript.Calm, hlooks]

/-- **An execution under way that is served** has left the record of its flow, or nothing yet. -/
theorem Task.Sound.appended_of_served (ht : t.Sound) (hcall : t.call = .execute x id ctx)
    (hserved : ∀ e ∈ t.past, e.1.Served first e.2) :
    t.past.appended = [] ∨ ∃ r, t.past.appended = [r] ∧ r.OfExecution first id ctx := by
  refine (ht.appended_eq hcall).imp_right ?_
  rintro ⟨future, flow, fin, tr, -, hhead, hrun, hone⟩
  -- the flow has been loaded before the record was left
  have hloaded : ⟨.get id, .ok (some flow)⟩ ∈ t.past := by
    cases hpast : t.past with
    | nil =>
      rw [hpast] at hone
      exact nomatch hone
    | cons e rest =>
      rw [hpast] at hhead
      obtain rfl := Option.some.inj hhead
      exact List.mem_cons_self ..
  have hget := hserved ⟨.get id, .ok (some flow)⟩ hloaded
  exact ⟨fin.record, hone, .of_ran hget (Executor.run_ran hrun)⟩

/-- No call tells that a schedule has fired. -/
theorem Task.Sound.not_scheduleFired (ht : t.Sound) (schedule flow : String) :
    .scheduleFired schedule flow ∉ t.past.published := by
  intro hmem
  rcases ht.told with hnone | ⟨runId, -, htold⟩
  · exact absurd (hnone ▸ hmem) List.not_mem_nil
  · -- such an event is neither of a run nor of a status
    exact nomatch htold _ hmem

end Outcome

end Flowgraph
