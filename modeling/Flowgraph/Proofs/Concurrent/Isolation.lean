import Mathlib.Data.List.Flatten
import Flowgraph.Proofs.Concurrent.System
import Flowgraph.Proofs.Run.Determined
import Flowgraph.Proofs.Store.Lives

/-!
# Runs are isolated, and leave one record each

Executions go on at the same time as updates, imports and deletions of the very flows that they run.
What an execution replies depends on nothing but the flow that it loaded first and on its own
cancellation: it is what a run alone on this flow comes to (`System.snapshot_isolation`).

The log is kept in memory.  Each step of a system adds to the log what it adds to the transcript of
the call that takes it (`System.Step.log`), so that the log is at every moment a rearrangement of
what the transcripts say was added, and only grows at its end.
-/

namespace Flowgraph

/-! ### The log -/

/-- The records of a log in memory. -/
def Store.log? : Store → Option (List Record)
  | memory s => some s.records
  | rows _ => none

/-- **Others may change the flows at will, but not the log**; the store may refuse to change a flow,
but takes every record. -/
def Rules.openFlows : Rules :=
  ⟨fun w w' => w'.store.log? = w.store.log?, Request.ChangesFlows⟩

theorem MemoryStore.records_insert {s s' : MemoryStore} {f : Flow} (h : s.insert f = .ok s') :
    s'.records = s.records := by
  unfold insert at h
  split at h
  · exact nomatch h
  · obtain rfl := Except.ok.inj h
    rfl

/-- **A request adds to a log in memory the record that it is for**, if it is for one, and nothing
else changes the log. -/
theorem World.answer_log {w : World} {l : List Record} (hw : w.store.log? = some l)
    (cancelled : Bool) (q : Request) :
    (w.answer cancelled q).2.store.log?
      = some (l ++ (Transcript.record? ⟨q, (w.answer cancelled q).1⟩).toList) := by
  obtain ⟨store, time, clock, made, unread⟩ := w
  cases store with
  | rows s => exact nomatch hw
  | memory s =>
    obtain rfl := Option.some.inj hw
    -- whatever is no record leaves the log as it is
    have hsame : (Store.memory s).log? = some (s.records ++ []) := by
      rw [List.append_nil]
      rfl
    cases q with
    | append r => rfl
    | insert f =>
      show (Store.settle Store.memory s (s.insert f)).2.log? = _
      cases hf : s.insert f with
      | error e => exact hsame
      | ok s' =>
        show some s'.records = _
        rw [MemoryStore.records_insert hf]
        exact hsame
    -- the other requests leave the records as they are
    | _ => exact hsame

theorem Answers.log {isCancelled : Bool} {w w' : World} {q : Request} {a : q.Answer}
    (h : Answers .openFlows isCancelled w q a w') {l : List Record} (hw : w.store.log? = some l) :
    w'.store.log? = some (l ++ (Transcript.record? ⟨q, a⟩).toList) := by
  cases h with
  | answered => exact World.answer_log hw _ q
  | elapsed n =>
    rw [hw]
    exact congrArg some (List.append_nil l).symm
  | refused _ hq _ _ _ =>
    -- only a change of a flow may be refused, and that adds no record
    have hnone : Transcript.record? ⟨q, a⟩ = none := by
      cases q <;> first | rfl | exact absurd hq id
    rw [hw, hnone]
    exact congrArg some (List.append_nil l).symm

/-! ### The log and the transcripts -/

/-- What the calls have added to the log, call by call. -/
def System.added (s : System) : List Record := s.tasks.flatMap fun t => t.past.appended

namespace System

variable {s s' : System} {l : List Record}

/-- **A step adds to the log what it adds to a transcript.** -/
theorem Step.log (h : Step .openFlows s s') (hl : s.world.store.log? = some l) :
    ∃ new, s'.world.store.log? = some (l ++ new) ∧ s'.added.Perm (s.added ++ new) := by
  cases h with
  | call call =>
    refine ⟨[], by rw [List.append_nil, hl], ?_⟩
    -- a call that has just come in has an empty transcript
    simp [added, Task.start]
  | cancel hi =>
    -- nothing new is asked for by a call that is cancelled
    exact ⟨[], by rw [List.append_nil, hl], perm_flatMap_set hi (List.append_nil _).symm⟩
  | @exchange i t hi q next hrest a w ha =>
    refine ⟨(Transcript.record? ⟨q, a⟩).toList, ha.log hl, perm_flatMap_set hi ?_⟩
    rw [Task.answered, Transcript.appended_append, Transcript.appended_cons,
      Transcript.appended_nil, List.append_nil]
  | change hw =>
    -- other changes to a store may be made as long as they leave its log alone
    refine ⟨[], ?_, by rw [List.append_nil]; exact .refl _⟩
    rw [List.append_nil, ← hl]
    exact hw

/-- **The log only grows at its end**, by what the transcripts say was added. -/
theorem Reaches.log (h : Reaches .openFlows s s') (hl : s.world.store.log? = some l) :
    ∃ new, s'.world.store.log? = some (l ++ new) ∧ s'.added.Perm (s.added ++ new) := by
  -- by induction on the steps, each adding to the log and to the transcripts alike
  induction h with
  | refl =>
    refine ⟨[], ?_, ?_⟩
    · rw [List.append_nil, hl]
    · rw [List.append_nil]
  | tail _ hstep ih =>
    obtain ⟨new, hl₁, hp₁⟩ := ih
    obtain ⟨new', hl₂, hp₂⟩ := hstep.log hl₁
    refine ⟨new ++ new', ?_, ?_⟩
    · rw [hl₂, List.append_assoc]
    · rw [← List.append_assoc]
      exact hp₂.trans (hp₁.append_right new')

end System

/-! ### Calls that leave no record -/

theorem Task.Sound.appended_eq_nil {t : Task} (ht : t.Sound)
    (h : ∀ x id ctx, t.call ≠ .execute x id ctx) : t.past.appended = [] := by
  refine ht.filterMap_eq_nil h fun ⟨q, a⟩ hq => ?_
  cases q <;> first | rfl | exact absurd trivial hq

/-- The ids of the records that a call has added have been made for it, each once. -/
theorem Task.Sound.appended_runIds {t : Task} (ht : t.Sound) :
    (t.past.appended.map (·.runId)).Sublist t.past.runIds := by
  cases hcall : t.call with
  | execute x id ctx =>
    rcases ht.appended_cases hcall with hnone | ⟨r, hone, hmade⟩
    · rw [hnone]
      exact List.nil_sublist _
    · rw [hone]
      exact List.singleton_sublist.mpr hmade
  | _ =>
    -- no other call adds a record
    rw [ht.appended_eq_nil (by simp [hcall])]
    exact List.nil_sublist _

/-! ### Isolation -/

/-- **What an execution comes to** that has loaded this flow: it replies what a run alone comes to
whose looks at the cancellation find the same, and has added this one record to the log. -/
structure Task.Isolated (t : Task) (x : Executor) (id : String) (ctx : Context) (flow : Flow)
    (fin : Executor.Finished) : Prop where
  reply : t.rest = .done (.ok (.finished fin))
  loaded : t.past.head? = some ⟨.get id, .ok (some flow)⟩
  appended : t.past.appended = [fin.record]
  agrees : ∀ w, fin.Agrees (World.runLooking t.past.looks (x.run flow ctx) w).1
  agrees_run : t.isCancelled = false → ∀ w, fin.Agrees (World.run (x.run flow ctx) w).1

/-- **An execution that is over has failed without a record, or is isolated.** -/
theorem Task.Sound.isolated {t : Task} (ht : t.Sound) {x : Executor} {id : String} {ctx : Context}
    (hcall : t.call = .execute x id ctx) {r : Except Fault Reply} (hrest : t.rest = .done r) :
    (∃ fault, r = .error fault ∧ t.past.appended = []) ∨
      ∃ flow fin, t.Isolated x id ctx flow fin := by
  obtain ⟨res, hexec, rfl⟩ := ht.executed hcall hrest
  rcases hexec.outcome with ⟨⟨fault, rfl⟩, hnone⟩ | ⟨flow, fin, tr, rfl, hhead, hrun, hlooks, hone⟩
  · exact .inl ⟨fault, rfl, hnone⟩
  · -- what the run has found when it looked for a cancellation is what it is run with alone
    have hagrees := Executor.run_runLooking hrun
    rw [← hlooks] at hagrees
    refine .inr ⟨flow, fin, hrest, hhead, hone, hagrees, fun hc w => ?_⟩
    -- a call that nobody has cancelled has found no cancellation
    have hcalm : true ∉ t.past.looks := by
      intro hfound
      rw [ht.looks hfound] at hc
      exact nomatch hc
    rw [← World.runLooking_eq_run _ w hcalm]
    exact hagrees w

/-- **Snapshot isolation, and one record for each run.**  Let any calls go on at the same time over
a log in memory, while others change the flows at will.  Then

* the log is what it was, and behind that a rearrangement of what the calls have added, call by call;
* a call that is no execution has added nothing; an execution that is over has failed without a
  record, or replies what a run alone on the flow that it loaded comes to, and has added just the
  record that it replies;
* if no id of a run has been made twice, then this record is the only one in the log with its id;
* whatever happens next, the log stays as it is but for what is added behind it. -/
theorem System.snapshot_isolation {w : World} {l : List Record} (hw : w.store.log? = some l)
    {s : System} (hs : System.Reaches .openFlows (.idle w) s) :
    ∃ new, s.world.store.log? = some (l ++ new) ∧
      new.Perm (s.tasks.flatMap fun t => t.past.appended) ∧
      (∀ t ∈ s.tasks, (∀ x id ctx, t.call ≠ .execute x id ctx) → t.past.appended = []) ∧
      (∀ t ∈ s.tasks, ∀ x id ctx r, t.call = .execute x id ctx → t.rest = .done r →
        (∃ fault, r = .error fault ∧ t.past.appended = []) ∨
          ∃ flow fin, t.Isolated x id ctx flow fin ∧
            ((l.map (·.runId) ++ s.tasks.flatMap fun t => t.past.runIds).Nodup →
              ((l ++ new).filter fun r => r.runId == fin.record.runId) = [fin.record])) ∧
      ∀ s', System.Reaches .openFlows s s' →
        ∃ later, s'.world.store.log? = some ((l ++ new) ++ later) := by
  -- what has come into the log is what the calls have appended, in some order
  obtain ⟨new, hlog, hperm⟩ := hs.log hw
  have hperm : new.Perm s.added := by simpa [System.added, System.idle] using hperm.symm
  refine ⟨new, hlog, hperm, fun t ht => (hs.sound ht).appended_eq_nil, ?_, fun s' hs' => ?_⟩
  · intro t ht x id ctx r hcall hrest
    rcases (hs.sound ht).isolated hcall hrest with hfailed | ⟨flow, fin, hiso⟩
    · exact .inl hfailed
    · refine .inr ⟨flow, fin, hiso, fun hids => filter_key_eq Record.runId ?_ ?_⟩
      · -- the ids of the records are among those that were made
        rw [List.map_append]
        refine ((hperm.map _).append_left _).nodup_iff.mpr (hids.sublist ?_)
        rw [System.added, List.map_flatMap]
        exact (List.Sublist.refl _).append
          (List.Sublist.flatMap_right _ fun t ht => (hs.sound ht).appended_runIds)
      · -- the record is there, since the call has added it
        refine List.mem_append_right _ (hperm.mem_iff.mpr (List.mem_flatMap.mpr ⟨t, ht, ?_⟩))
        rw [hiso.appended]
        exact List.mem_cons_self ..
  · obtain ⟨later, hlater, -⟩ := hs'.log hlog
    exact ⟨later, hlater⟩

namespace System

/-- Two executions of a flow that is deleted as soon as they have loaded it; the second one is
cancelled then. -/
def deletedMidway : List Move :=
  let loop : Flow :=
    .fresh "loop" "Loop" "" ⟨[⟨"start", "trigger", Json.empty, .origin⟩],
      [⟨"back", "start", "start", none, none⟩]⟩ ⟨0, 0⟩
  let run : Call := .execute ⟨.empty, 1⟩ "loop" ⟨.str "payload", []⟩
  [.call (.importFlow loop), .go 0, .call run, .call run, .go 1, .go 2, .call (.delete "loop"),
    .go 3, .cancel 2] ++ List.replicate 13 (.go 1) ++ List.replicate 11 (.go 2)

/-- Both executions leave their record, though the flow is gone. -/
theorem snapshot_isolation_deletedMidway :
    ∃ s, (idle (.start (.memory .empty) ⟨0, 0⟩)).play? deletedMidway = some s ∧
      s.tasks.map (·.past.appended.map (·.steps.length)) = [[], [1], [0], []] ∧
      ∃ new, s.world.store.log? = some new ∧
        new.Perm (s.tasks.flatMap fun t => t.past.appended) := by
  have hsteps : ((idle (.start (.memory .empty) ⟨0, 0⟩)).play? deletedMidway).map (fun s =>
      s.tasks.map (·.past.appended.map (·.steps.length))) = some [[], [1], [0], []] := by rfl
  obtain ⟨s, hs, hs'⟩ := Option.map_eq_some_iff.mp hsteps
  obtain ⟨new, hnew, hperm, -⟩ :=
    snapshot_isolation (l := []) (s := s) rfl (reaches_of_play? hs)
  exact ⟨s, hs, hs', new, hnew, hperm⟩

end System

end Flowgraph
