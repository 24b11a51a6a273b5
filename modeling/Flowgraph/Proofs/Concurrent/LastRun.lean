import Flowgraph.Proofs.Concurrent.Running
import Flowgraph.Proofs.Concurrent.Stages

/-!
# The last run of a flow

Where calls take turns nothing has changed between the moments when an execution loads its flow and
when it marks it as running, so only the ends of the runs count: the last run that is stored is the
start of the run that ended last (`System.lastRun_follows_ends`).  This need not be the run that
started last.  A run that is under way during the whole of another one puts back an earlier start
(`System.lastRun_follows_ends_goesBack`).

`System.Dated` is what every turn preserves, for any number of executions and of other calls.  It rests
on the stages of a single execution.
-/

namespace Flowgraph

/-! ### Calls -/

/-- **No call removes a flow but its deletion**, and none stores a life for it but its execution. -/
theorem Call.operation_spares {call : Call} {id : String} (h : call ≠ .delete id) :
    call.operation.Meets (fun _ _ => True) (fun q => q ≠ .delete id ∧
      ((∃ status lastRun, q = .setLife id status lastRun) → ∃ x ctx, call = .execute x id ctx))
      fun _ => True := by
  refine call.operation_meets_of fun q hq => ?_
  cases hq with
  | deleted => exact ⟨fun heq => h (by rw [Request.delete.inj heq]), by simp⟩
  | marked | ended =>
    -- a life is stored for the flow of the execution alone
    refine ⟨nofun, ?_⟩
    rintro ⟨_, _, heq⟩
    obtain ⟨rfl, -, -⟩ := Request.setLife.inj heq
    exact ⟨_, _, rfl⟩
  | ran hq =>
    -- of all the requests that a run makes none is to store a life, or to delete
    cases q <;> first | exact hq.elim | exact ⟨nofun, by simp⟩
  | _ => exact ⟨nofun, by simp⟩

/-- **The record of a run of this flow from its trigger**, if the call is an execution that is over. -/
def Task.ended (id : String) (t : Task) : List Record :=
  match t.call with
  | .execute _ other _ => if other = id then t.rest.ended else []
  | _ => []

namespace Task

variable {t : Task} {id : String}

theorem ended_of_execute {x : Executor} {ctx : Context} (h : t.call = .execute x id ctx) :
    t.ended id = t.rest.ended := by
  rw [ended, h]
  exact if_pos rfl

/-- Only an execution of the flow ends a run of it. -/
theorem ended_of_call (h : ∀ x ctx, t.call ≠ .execute x id ctx) : t.ended id = [] := by
  unfold ended
  split
  · next x other ctx hcall =>
    refine if_neg ?_
    rintro rfl
    exact h x ctx hcall
  · rfl

/-- A call that is not over has not ended a run. -/
theorem ended_of_ask {q : Request} {next : q.Answer → Operation (Except Fault Reply)}
    (h : t.rest = .ask q next) : t.ended id = [] := by
  unfold ended
  split
  · rw [h]
    exact ite_self _
  · rfl

/-- A call that has just come in has not ended a run. -/
theorem ended_start (call : Call) (id : String) : (start call).ended id = [] := by
  cases call with
  | execute x other ctx =>
    exact ended_of_ask (Call.execute_operation ..)
  | _ => rfl

end Task

/-! ### What every turn preserves -/

/-- What a request does to what stands for a flow, if only the calls change the store and it takes
every change of a flow. -/
theorem Answers.slot {isCancelled : Bool} {w w' : World} {q : Request} {a : q.Answer} {id : String}
    {y : Slot} (h : Answers .steady isCancelled w q a w') (hy : w.store.slot id = some y)
    (hq : q ≠ .delete id) : w'.store.slot id = some (q.onSlot id y) := by
  cases h with
  | answered => exact World.slot_answer hy _ hq
  | elapsed n => exact hy
  | refused _ hkeeps _ _ _ =>
    -- what may be refused would not have done anything to the flow
    rw [hy]
    cases q with
    | update f => exact absurd trivial hkeeps
    | setLife other status lastRun => exact absurd trivial hkeeps
    | _ => rfl

namespace System

variable {s s' : System} {id : String} {y y' : Slot} {before : Option Instant}
  {readings readings' : List Instant} {ended more : List Record} {trace new : List Task}

/-- **What stands for a flow in the store is the start of the run that ended last**, runs have ended one
after another, and each execution of the flow stands where it should. -/
structure Dated (s : System) (id : String) (before : Option Instant) (readings : List Instant)
    (ended : List Record) (y : Slot) : Prop where
  slot : s.world.store.slot id = some y
  lastRan : y.LastRan (lastEnded before ended)
  inTime : InTime readings ended
  ended_perm : ended.Perm (s.tasks.flatMap (Task.ended id))
  stands : ∀ t ∈ s.tasks, (∃ x ctx, t.call = .execute x id ctx) →
    t.past = [] ∨ Stage id y readings ended t.rest

/-- A call has its turn, and all others are at rest. -/
theorem Dated.set (hs : s.Dated id before readings ended y) {i : Nat} {t t' : Task} {w : World}
    (hi : s.tasks[i]? = some t) (hothers : s.othersAtRest i = true)
    (hslot : w.store.slot id = some y') (hlast : y'.LastRan (lastEnded before (ended ++ more)))
    (htime : InTime readings' (ended ++ more)) (hmore : ∀ r ∈ readings, r ∈ readings')
    (hnew : t'.ended id = t.ended id ++ more)
    (hstage : (∃ x ctx, t'.call = .execute x id ctx) →
      Stage id y' readings' (ended ++ more) t'.rest) :
    Dated ⟨w, s.tasks.set i t'⟩ id before readings' (ended ++ more) y' where
  slot := hslot
  lastRan := hlast
  inTime := htime
  ended_perm := (hs.ended_perm.append_right more).trans (perm_flatMap_set hi hnew).symm
  -- whichever call it is, it has had its turn now, or stands where it stood
  stands u hu hexec := by
    rcases eq_or_mem_eraseIdx_of_mem_set hu with rfl | hu
    · exact .inr (hstage hexec)
    · -- the others stand where they stand
      have hrest := List.all_eq_true.mp hothers u hu
      rcases hs.stands u (List.mem_of_mem_eraseIdx hu) hexec with hpast | hstage
      · exact .inl hpast
      · rcases Bool.or_eq_true_iff.mp hrest with hpast | hpauses
        · exact .inl (List.isEmpty_iff.mp hpast)
        · exact .inr (hstage.of_pauses hpauses hmore)

/-- **A request of an execution of the flow** brings it to its next stage. -/
theorem Dated.advances (hs : s.Dated id before readings ended y) {t : Task} (ht : t.Sound)
    (hmem : t ∈ s.tasks) {x : Executor} {ctx : Context} (hcall : t.call = .execute x id ctx)
    {q : Request} {next : q.Answer → Operation (Except Fault Reply)} (hrest : t.rest = .ask q next)
    {a : q.Answer} {w : World} (ha : Answers .steady t.isCancelled s.world q a w)
    (hreadings : readings' = readings ++ (Transcript.reading? ⟨q, a⟩).toList)
    (hclock : readings'.Pairwise (· ≤ ·)) : Advances id y readings' ended q (next a) := by
  rcases hs.stands t hmem ⟨x, ctx, hcall⟩ with hpast | hstage
  · -- it has not begun, and loads the flow now
    have hafter := ht.after
    rw [hpast, hcall, Call.execute_operation, hrest] at hafter
    cases hafter
    obtain ⟨rfl, hfound⟩ := ha.get_inv
    refine .of_resume (fun flow hflow => ?_) (hs.inTime.mono fun r hr => ?_)
    · obtain ⟨y', hy', hread⟩ := Store.get_eq_some_iff.mp (hfound.symm.trans hflow)
      obtain rfl := Option.some.inj (hs.slot.symm.trans hy')
      exact hs.lastRan.of_read hread
    · exact hreadings ▸ List.mem_append_left _ hr
  · rw [hrest] at hstage
    exact hstage.answered hs.inTime a hreadings hclock

/-- **A request that is answered** keeps what stands in the store dated by the run that ended last. -/
theorem Dated.exchange (hs : s.Dated id before readings ended y) {i : Nat} {t : Task}
    (hi : s.tasks[i]? = some t) (ht : t.Sound) (hdelete : t.call ≠ .delete id)
    (hothers : s.othersAtRest i = true) {q : Request}
    {next : q.Answer → Operation (Except Fault Reply)} (hrest : t.rest = .ask q next) {a : q.Answer}
    {w : World} (ha : Answers .steady t.isCancelled s.world q a w)
    (hreadings : readings' = readings ++ (Transcript.reading? ⟨q, a⟩).toList)
    (hclock : readings'.Pairwise (· ≤ ·)) :
    Dated ⟨w, s.tasks.set i (t.answered q a next)⟩ id before readings'
      (ended ++ (t.answered q a next).ended id) (q.onSlot id y) := by
  have hmore : ∀ r ∈ readings, r ∈ readings' := fun r hr => hreadings ▸ List.mem_append_left _ hr
  -- what is left of the call removes no flow, and stores a life only in an execution
  have hmeets := (Call.operation_spares hdelete).after ht.after fun _ _ => trivial
  rw [hrest] at hmeets
  obtain ⟨⟨hq, hlife⟩, -⟩ := hmeets
  have hslot := ha.slot hs.slot hq
  have hold : t.ended id = [] := Task.ended_of_ask hrest
  by_cases hexec : ∃ x ctx, t.call = .execute x id ctx
  · -- an execution of the flow, which may end its run
    obtain ⟨x, ctx, hcall⟩ := hexec
    have hadvances := hs.advances ht (List.mem_of_getElem? hi) hcall hrest ha hreadings hclock
    have hended : (t.answered q a next).ended id = (next a).ended := Task.ended_of_execute hcall
    have hnew : (t.answered q a next).ended id = t.ended id ++ (next a).ended := by
      rw [hended, hold, List.nil_append]
    rw [hended]
    exact hs.set hi hothers hslot (hadvances.slot before hs.lastRan) hadvances.inTime hmore hnew
      fun _ => hadvances.stage
  · -- any other call keeps the last run
    have hended : (t.answered q a next).ended id = [] :=
      Task.ended_of_call fun x ctx hcall => hexec ⟨x, ctx, hcall⟩
    have hnew : (t.answered q a next).ended id = t.ended id ++ [] := by
      rw [hended, hold, List.nil_append]
    have hlast := hs.lastRan.onSlot fun status lastRun hq => hexec (hlife ⟨status, lastRun, hq⟩)
    rw [hended]
    -- nothing has ended, so what stands there is still that of the run that ended last
    refine hs.set hi hothers hslot ?_ ?_ hmore hnew fun h => absurd h hexec
    · rwa [List.append_nil]
    · rw [List.append_nil]
      exact hs.inTime.mono hmore

/-- **Every turn keeps what stands in the store** dated by the run that ended last. -/
theorem Dated.turn (hs : s.Dated id before readings ended y) (hsound : ∀ t ∈ s.tasks, t.Sound)
    (hdelete : ∀ t ∈ s'.tasks, t.call = .delete id → t.past = []) (h : Turn .steady s new s')
    (hclock : (readings ++ new.filterMap Task.reading?).Pairwise (· ≤ ·)) :
    ∃ y', s'.Dated id before (readings ++ new.filterMap Task.reading?)
      (ended ++ new.flatMap (Task.ended id)) y' := by
  cases h with
  | call call =>
    rw [List.filterMap_nil, List.flatMap_nil, List.append_nil, List.append_nil]
    refine ⟨y, hs.slot, hs.lastRan, hs.inTime, ?_, fun t ht hexec => ?_⟩
    · simpa [Task.ended_start] using hs.ended_perm
    · rcases List.mem_append.mp ht with ht | ht
      · exact hs.stands t ht hexec
      · -- the new call has not begun
        rw [List.mem_singleton.mp ht]
        exact .inl rfl
  | @cancel i t hi =>
    rw [List.filterMap_nil, List.flatMap_nil, List.append_nil, List.append_nil]
    have hnew : t.cancelled.ended id = t.ended id ++ [] := (List.append_nil _).symm
    have hperm := (perm_flatMap_set hi hnew).symm
    rw [List.append_nil] at hperm
    -- to be cancelled is nothing to where a call stands
    refine ⟨y, hs.slot, hs.lastRan, hs.inTime, hs.ended_perm.trans hperm, fun u hu hexec => ?_⟩
    rcases List.mem_or_eq_of_mem_set hu with hu | rfl
    · exact hs.stands u hu hexec
    · exact hs.stands t (List.mem_of_getElem? hi) hexec
  | @exchange i t hi q next hrest a w ha hothers =>
    have hmem := List.mem_of_getElem? hi
    have hreadings : [t.answered q a next].filterMap Task.reading?
        = (Transcript.reading? ⟨q, a⟩).toList := by
      rw [List.filterMap_eq_flatMap_toList, List.flatMap_singleton, Task.reading?_answered]
    -- the call has begun now, so that it cannot be the deletion
    obtain ⟨hlt, -⟩ := List.getElem?_eq_some_iff.mp hi
    have hnotDelete : t.call ≠ .delete id := fun hcall =>
      List.concat_ne_nil _ _ (hdelete _ (List.mem_set hlt _) hcall)
    rw [hreadings] at hclock ⊢
    rw [List.flatMap_singleton]
    exact ⟨_, hs.exchange hi (hsound t hmem) hnotDelete hothers hrest ha rfl hclock⟩
  | @change w hw =>
    rw [List.filterMap_nil, List.flatMap_nil, List.append_nil, List.append_nil]
    -- the world has changed, but not what stands for the flow
    exact ⟨y, hw ▸ hs.slot, hs.lastRan, hs.inTime, hs.ended_perm, hs.stands⟩

/-- **Whatever calls take turns**, what stands in the store is dated by the run that ended last. -/
theorem Turns.dated {w : World} (hw : w.store.slot id = some y) (hbefore : y.LastRan before)
    (hs : Turns .steady (.idle w) trace s)
    (hdelete : ∀ t ∈ s.tasks, t.call = .delete id → t.past = [])
    (hclock : (trace.filterMap Task.reading?).Pairwise (· ≤ ·)) :
    ∃ y', s.Dated id before (trace.filterMap Task.reading?) (trace.flatMap (Task.ended id)) y' := by
  -- by induction on the turns; both assumptions hold of what has been before
  induction hs with
  | refl => exact ⟨y, hw, hbefore, ⟨nofun, .nil⟩, .nil, nofun⟩
  | @tail _ _ s₁ _ hturns hturn ih =>
    rw [List.filterMap_append] at hclock ⊢
    rw [List.flatMap_append]
    -- a deletion that has begun before is one that has begun
    have hdelete₁ : ∀ t ∈ s₁.tasks, t.call = .delete id → t.past = [] := fun t ht hcall => by
      by_contra hbegun
      obtain ⟨t', ht', hcall', hbegun'⟩ := hturn.step.begun_mem ⟨t, ht, hcall, hbegun⟩
      exact hbegun' (hdelete t' ht' hcall')
    obtain ⟨y₁, hdated⟩ := ih hdelete₁ (List.pairwise_append.mp hclock).1
    exact hdated.turn (fun t ht => hturns.reaches.sound ht) hdelete hturn hclock

/-- **The last run of a flow is the run that ended last.**  Let any calls take turns, the clock not go
back, and no deletion of the flow have begun.  Take the runs of the flow from its trigger that have
ended, in the order of their ends; these are the runs that the executions have come to.  Then, at any
moment,

* the flow is still stored, and the last run that stands there is the start of the one that ended
  last, or what stood there before if none has ended;
* no other of them started after this one, but for those that it was under way during the whole of. -/
theorem lastRun_follows_ends {w : World} (hw : w.store.slot id = some y) (hbefore : y.LastRan before)
    (hs : Turns .steady (.idle w) trace s)
    (hdelete : ∀ t ∈ s.tasks, t.call = .delete id → t.past = [])
    (hclock : (trace.filterMap Task.reading?).Pairwise (· ≤ ·)) :
    let ended := trace.flatMap (Task.ended id)
    ended.Perm (s.tasks.flatMap (Task.ended id)) ∧
      (∃ y', s.world.store.slot id = some y' ∧ y'.LastRan (lastEnded before ended)) ∧
      ∀ last ∈ ended.getLast?, ∀ r ∈ ended, r.startedAt ≤ last.startedAt ∨ last.Spans r := by
  obtain ⟨y', hdated⟩ := hs.dated hw hbefore hdelete hclock
  refine ⟨hdated.ended_perm, ⟨y', hdated.slot, hdated.lastRan⟩, fun last hlast r hr => ?_⟩
  -- a run that starts after the one that ended last has ended before it, which so spans it
  refine (Instant.le_total r.startedAt last.startedAt).imp_right fun hstarted => ⟨hstarted, ?_⟩
  exact hdated.inTime.le_last hlast hr

/-- A flow that has never run, and rests when it does. -/
def restful : Flow :=
  .fresh "loop" "Loop" "" ⟨[⟨"start", "trigger", Json.empty, .origin⟩,
    ⟨"rest", "delay", Json.empty, .origin⟩], [⟨"on", "start", "rest", none, none⟩]⟩ ⟨0, 0⟩

/-- The flow rests for a second. -/
def sleeper : Executor :=
  let delay : Handler := fun _ ctx => ⟨1000, .ok (.next ctx.input), ctx⟩
  ⟨Registry.empty.register "delay" delay, 2⟩

/-- An execution of the flow. -/
def resting : Call := .execute sleeper "loop" ⟨.str "payload", []⟩

/-- Of two executions the second one starts while the first one rests, and comes to its end. -/
def overtaking : List Move :=
  [.call resting] ++ List.replicate 9 (.go 0) ++ [.call resting] ++ List.replicate 16 (.go 1)

/-- What is left for the first execution once it has rested. -/
def overtaken : List Move := List.replicate 7 (.go 0)

/-- The first execution comes to its end as well, and puts back its own start. -/
theorem overtaking_ends :
    ∃ trace s trace' s',
      (idle (.start (.memory ⟨[restful], []⟩) ⟨0, 0⟩)).playTurns? overtaking = some (trace, s) ∧
      s.playTurns? overtaken = some (trace', s') ∧
      (∀ t ∈ s'.tasks, t.call = resting ∧ ¬ t.UnderWay) ∧
      ((trace ++ trace').filterMap Task.reading?).Pairwise (· ≤ ·) ∧
      (∃ earlier last, (trace ++ trace').flatMap (Task.ended "loop") = [earlier, last] ∧
        earlier.startedAt = ⟨0, 1000⟩ ∧ last.startedAt = ⟨0, 0⟩) ∧
      s.world.store.get "loop" = .ok (some (restful.withLife .active (some ⟨0, 1000⟩))) ∧
      s'.world.store.get "loop" = .ok (some (restful.withLife .active (some ⟨0, 0⟩))) := by
  -- the whole run is computed; what is left are the calls, and the readings in order
  refine ⟨_, _, _, _, rfl, rfl, ?_, ?_, ⟨_, _, rfl, rfl, rfl⟩, rfl, rfl⟩
  · refine List.forall_mem_cons.mpr ⟨⟨rfl, Task.not_underWay_of_isOver rfl⟩, ?_⟩
    exact List.forall_mem_cons.mpr ⟨⟨rfl, Task.not_underWay_of_isOver rfl⟩, nofun⟩
  · have hclock : [⟨0, 0⟩, ⟨0, 1000⟩, ⟨0, 2000⟩, ⟨0, 3000⟩].Pairwise fun s t : Instant => s ≤ t := by
      decide
    exact hclock

/-- The run that ended last was under way during the whole of the other one, and its start is what
stands in the store. -/
theorem lastRun_follows_ends_overtaken :
    ∃ trace s trace' s' earlier last,
      (idle (.start (.memory ⟨[restful], []⟩) ⟨0, 0⟩)).playTurns? overtaking = some (trace, s) ∧
      s.playTurns? overtaken = some (trace', s') ∧
      [earlier, last].Perm (s'.tasks.flatMap (Task.ended "loop")) ∧ last.Spans earlier ∧
      ∃ y, s'.world.store.slot "loop" = some y ∧ y.LastRan (some last.startedAt) := by
  obtain ⟨trace, s, trace', s', hs, hs', htasks, hclock, ⟨earlier, last, hended, hearlier, hlast⟩, -⟩ :=
    overtaking_ends
  have hstart : (Store.memory ⟨[restful], []⟩).slot "loop" = some (.flow restful) := rfl
  have hnever : (Slot.flow restful).LastRan none := rfl
  -- nobody deletes anything: every call is an execution
  have hdelete : ∀ t ∈ s'.tasks, t.call = .delete "loop" → t.past = [] := fun t ht hcall =>
    nomatch (htasks t ht).1.symm.trans hcall
  obtain ⟨hperm, hslot, hlatest⟩ := lastRun_follows_ends hstart hnever
    ((turns_of_playTurns? hs).trans (turns_of_playTurns? hs')) hdelete hclock
  rw [hended] at hperm hslot hlatest
  refine ⟨trace, s, trace', s', earlier, last, hs, hs', hperm, ?_, hslot⟩
  refine (hlatest last rfl earlier (List.mem_cons_self ..)).resolve_left fun hle => ?_
  -- the other case would have the starts the wrong way round
  rw [hearlier, hlast] at hle
  exact absurd hle (by decide)

/-- **It is not so that the last run of a flow never goes back**, nor that it is the latest start once
all of its executions are over. -/
theorem lastRun_follows_ends_goesBack :
    (¬ ∀ (w : World) (id : String) (trace trace' : List Task) (s s' : System),
      Turns .steady (.idle w) trace s → Turns .steady s trace' s' →
        (∀ t ∈ s'.tasks, ∃ x ctx, t.call = .execute x id ctx) →
        ((trace ++ trace').filterMap Task.reading?).Pairwise (· ≤ ·) →
          ∀ f f', s.world.store.get id = .ok (some f) → s'.world.store.get id = .ok (some f') →
            ∀ t ∈ f.lastRun, ∃ t' ∈ f'.lastRun, t ≤ t') ∧
    ¬ ∀ (w : World) (id : String) (trace : List Task) (s : System),
      Turns .steady (.idle w) trace s →
        (∀ t ∈ s.tasks, ∃ x ctx, t.call = .execute x id ctx) →
        (trace.filterMap Task.reading?).Pairwise (· ≤ ·) → (∀ t ∈ s.tasks, ¬ t.UnderWay) →
          ∀ f, s.world.store.get id = .ok (some f) →
            ∀ r ∈ trace.flatMap (Task.ended id), ∃ t ∈ f.lastRun, r.startedAt ≤ t := by
  -- one schedule refutes both: a run that has begun earlier ends later and puts back its start
  obtain ⟨trace, s, trace', s', hs, hs', htasks, hclock, ⟨earlier, last, hended, hearlier, -⟩, hget,
    hget'⟩ := overtaking_ends
  have hturns : Turns .steady _ trace s := turns_of_playTurns? hs
  have hturns' : Turns .steady s trace' s' := turns_of_playTurns? hs'
  have hexec : ∀ t ∈ s'.tasks, ∃ x ctx, t.call = .execute x "loop" ctx := fun t ht =>
    ⟨sleeper, _, (htasks t ht).1⟩
  constructor
  · -- the start that stands there midway is later than the one at the end
    intro hnever
    obtain ⟨t, ht, hle⟩ :=
      hnever _ "loop" _ _ s s' hturns hturns' hexec hclock _ _ hget hget' ⟨0, 1000⟩ rfl
    obtain rfl := Option.some.inj ht
    exact absurd hle (by decide)
  · -- the earlier of the two runs starts later than what stands there at the end
    intro hlatest
    obtain ⟨t, ht, hle⟩ := hlatest _ "loop" _ s' (hturns.trans hturns') hexec hclock
      (fun t ht => (htasks t ht).2) _ hget' earlier (hended ▸ List.mem_cons_self ..)
    obtain rfl := Option.some.inj ht
    rw [hearlier] at hle
    exact absurd hle (by decide)

end System

end Flowgraph
