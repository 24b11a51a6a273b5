import Flowgraph.Proofs.Concurrent.Undisturbed
import Flowgraph.Proofs.Session.Background
import Flowgraph.Session.Runs

/-!
# Executions in the background of a session

A session whose background operations are executions is played by a system of these executions
(`System.Plays`): whatever the background does, it is a number of steps of the system, in which requests
are answered one after the other (`System.Plays.goesOn`).  So what holds of all interleavings of
requests holds of the background.
-/

namespace Flowgraph

/-- The operation of an execution, with its value given as a reply. -/
def replying (o : Operation (Except Fault Executor.Finished)) : Operation (Except Fault Reply) :=
  Interaction.bind o fun r => .done (r.map .finished)

/-- **A call stands where a background operation stands.** -/
inductive Phase.Stands : Phase (Except Fault Executor.Finished) → Operation (Except Fault Reply) → Prop
  | due (o : Operation (Except Fault Executor.Finished)) : Stands (.due o) (replying o)
  | waiting (wake n : Nat) (next : Waited → Operation (Except Fault Executor.Finished)) :
      Stands (.waiting wake next) (.ask (.wait n) fun ended => replying (next ended))
  | ended (r : Except Fault Executor.Finished) : Stands (.ended r) (.done (r.map .finished))

/-- **A call plays a background operation** at a time: it stands where that stands, and is cancelled if
that is. -/
structure Job.PlayedBy (time : Nat) (j : Job (Except Fault Executor.Finished)) (t : Task) : Prop where
  stands : j.phase.Stands t.rest
  isCancelled : t.isCancelled = j.cancelAt.isSome
  cancelAt_le : ∀ c, j.cancelAt = some c → c ≤ time

/-- **A system of calls plays a session**, which has not left its store. -/
structure System.Plays (sys : System) (calls : List Call) (s : Runs) : Prop where
  world : sys.world = s.world
  past : s.past = []
  calls : sys.tasks.map (·.call) = calls
  length : sys.tasks.length = s.jobs.length
  jobs : ∀ (i : Nat) (j : Job (Except Fault Executor.Finished)) (t : Task), s.jobs[i]? = some j →
    sys.tasks[i]? = some t → j.PlayedBy s.world.time t

namespace Job.PlayedBy

variable {time : Nat} {j : Job (Except Fault Executor.Finished)} {t : Task}

theorem isCancelledBy (h : j.PlayedBy time t) {w : World} (hw : w.time = time) :
    t.isCancelled = w.isCancelledBy j.cancelAt := by
  rw [h.isCancelled]
  cases hc : j.cancelAt with
  | none => rfl
  | some c => exact (decide_eq_true (hw ▸ h.cancelAt_le c hc)).symm

/-- A wait is only cut short if the operation is cancelled. -/
theorem isCancelled_of_cut (h : j.PlayedBy time t) {wake : Nat}
    (hcut : World.waited (World.earlier wake j.cancelAt) wake = .cancelled) : t.isCancelled = true := by
  rw [h.isCancelled]
  cases hc : j.cancelAt with
  | none =>
    rw [hc, World.earlier, World.waited, if_neg (Nat.lt_irrefl wake)] at hcut
    cases hcut
  | some c => rfl

end Job.PlayedBy

namespace System.Plays

variable {sys : System} {calls : List Call} {s s' : Runs} {i : Nat}
  {j j' : Job (Except Fault Executor.Finished)} {t t' : Task}

theorem exists_task (h : sys.Plays calls s) (hj : s.jobs[i]? = some j) :
    ∃ t, sys.tasks[i]? = some t ∧ j.PlayedBy s.world.time t := by
  obtain ⟨hi, -⟩ := List.getElem?_eq_some_iff.mp hj
  have hlt : i < sys.tasks.length := h.length.symm ▸ hi
  exact ⟨_, List.getElem?_eq_getElem hlt, h.jobs i j _ hj (List.getElem?_eq_getElem hlt)⟩

/-- **One call has gone on** with the operation that it plays, and all others stand where they stood. -/
theorem set (h : sys.Plays calls s) (ht : sys.tasks[i]? = some t) (hnew : j'.PlayedBy s.world.time t')
    (hcall : t'.call = t.call) {w : World} (htime : w.time = s.world.time) (turns : Nat) :
    Plays ⟨w, sys.tasks.set i t'⟩ calls { s with world := w, jobs := s.jobs.set i j', turns } where
  world := rfl
  past := h.past
  calls := by
    obtain ⟨hi, rfl⟩ := List.getElem?_eq_some_iff.mp ht
    rw [List.map_set, hcall, ← List.map_set, List.set_getElem_self, h.calls]
  length := by rw [List.length_set, List.length_set, h.length]
  jobs k u v hu hv := by
    rw [htime]
    -- the one that has gone on is played as is assumed, and the others as before
    by_cases hk : i = k
    · subst hk
      obtain ⟨hi, -⟩ := List.getElem?_eq_some_iff.mp ht
      rw [List.getElem?_set_self hi] at hv
      rw [List.getElem?_set_self (h.length ▸ hi)] at hu
      obtain rfl := Option.some.inj hu
      obtain rfl := Option.some.inj hv
      exact hnew
    · rw [List.getElem?_set_ne hk] at hu hv
      exact h.jobs k u v hu hv

theorem pass (h : sys.Plays calls s) {time : Nat} (htime : s.world.time ≤ time) :
    ∃ sys', Reaches .undisturbed sys sys' ∧ sys'.Plays calls (s.atTime time) := by
  -- that time passes is all that others change
  refine ⟨_, .single (.change ⟨time, rfl⟩), ?_⟩
  refine ⟨congrArg (fun w : World => { w with time }) h.world, h.past, h.calls, h.length, ?_⟩
  intro k u v hu hv
  have hold := h.jobs k u v hu hv
  exact ⟨hold.stands, hold.isCancelled, fun c hc => Nat.le_trans (hold.cancelAt_le c hc) htime⟩

/-- **A call goes on to where the operation can go on** that it plays. -/
theorem wakes (h : sys.Plays calls s) (hj : s.jobs[i]? = some j) (ht : sys.tasks[i]? = some t)
    {rest : Operation (Except Fault Executor.Finished)} (hrest : j.rest? = some rest) :
    ∃ t' : Task, t'.rest = replying rest ∧ t'.call = t.call ∧ t'.isCancelled = t.isCancelled ∧
      Reaches .undisturbed sys ⟨sys.world, sys.tasks.set i t'⟩ := by
  have hplayed := h.jobs i j t hj ht
  have hstands := hplayed.stands
  obtain ⟨turn, era, cancelAt, phase⟩ := j
  generalize hq : t.rest = left at hstands
  -- what an operation stands at is due, or a wait, or its end
  cases hstands with
  | due o =>
    obtain rfl := Option.some.inj hrest
    exact ⟨t, hq, rfl, rfl, eq_set_self ht ▸ .refl⟩
  | waiting wake n next =>
    -- the wait is over, or cut short if the operation is cancelled
    obtain rfl := Option.some.inj hrest
    generalize hended : World.waited (World.earlier wake cancelAt) wake = ended
    have hanswer : Answers .undisturbed t.isCancelled sys.world (.wait n) ended sys.world := by
      cases ended with
      | elapsed => exact .elapsed n
      | cancelled =>
        rw [hplayed.isCancelled_of_cut hended]
        exact .answered (.wait n)
    exact ⟨t.answered (.wait n) ended _, rfl, rfl, rfl, .single (.exchange ht hq hanswer)⟩
  | ended r => exact nomatch hrest

theorem stands_phaseAt (time : Nat) (stop : Stop (Except Fault Executor.Finished)) :
    (Session.phaseAt time stop).Stands (stop.map fun r => r.map Reply.finished).rest := by
  cases stop with
  | ended r => exact .ended r
  | waits n next => exact .waiting (time + n) n next

/-- **The calls go on with the background**: when an operation goes on until it stops, its requests are
answered one after the other. -/
theorem advance (h : sys.Plays calls s) (i : Nat) :
    ∃ sys', Reaches .undisturbed sys sys' ∧ sys'.Plays calls (s.advance i) := by
  rcases s.advance_cases i with ⟨-, hsame⟩ | ⟨j, rest, hj, hrest, hnew⟩
  · rw [hsame]
    exact ⟨sys, .refl, h⟩
  obtain ⟨t, ht, hplayed⟩ := h.exists_task hj
  obtain ⟨t₁, hrest₁, hcall₁, hcancelled₁, hreach₁⟩ := h.wakes hj ht hrest
  -- from there on the requests are answered one after the other
  obtain ⟨hi, -⟩ := List.getElem?_eq_some_iff.mp ht
  let sys₁ : System := ⟨sys.world, sys.tasks.set i t₁⟩
  have ht₁ : sys₁.tasks[i]? = some t₁ := List.getElem?_set_self hi
  have hc₁ : t₁.isCancelled = sys₁.world.isCancelledBy j.cancelAt :=
    hcancelled₁.trans (hplayed.isCancelledBy (congrArg World.time h.world))
  obtain ⟨t₂, hrest₂, hcall₂, hcancelled₂, hreach₂⟩ := exists_reaches_runToWait ht₁ hc₁
  -- both go as far as the next wait, with the same answers
  simp only [sys₁] at hrest₂ hreach₂
  rw [h.world] at hreach₁
  rw [List.set_set, hrest₁, replying, World.runToWait_map, h.world] at hreach₂
  rw [hrest₁, replying, World.runToWait_map, h.world] at hrest₂
  have htime := World.runToWait_time j.cancelAt rest s.world
  have hwithin : s.within j.era (World.runToWait j.cancelAt rest)
      = ((World.runToWait j.cancelAt rest s.world).1,
        { s with world := (World.runToWait j.cancelAt rest s.world).2 }) := by
    rw [Session.within, h.past]
    rfl
  rw [hnew, hwithin]
  generalize World.runToWait j.cancelAt rest s.world = stopped at *
  have hplayed₂ : Job.PlayedBy s.world.time
      { j with turn := s.turns, phase := Session.phaseAt stopped.2.time stopped.1 } t₂ := by
    refine ⟨?_, (hcancelled₂.trans hcancelled₁).trans hplayed.isCancelled, hplayed.cancelAt_le⟩
    rw [hrest₂]
    exact stands_phaseAt _ _
  exact ⟨_, hreach₁.trans hreach₂, h.set ht hplayed₂ (hcall₂.trans hcall₁) htime _⟩

/-- What is cancelled now is cancelled. -/
theorem cancelled_playedBy {time : Nat} (h : j.PlayedBy time t) :
    (j.cancelledBy time).PlayedBy time t.cancelled where
  stands := h.stands
  isCancelled := rfl
  cancelAt_le _ hc := Option.some.inj hc ▸ j.cancelledBy_le time

/-- **A call is cancelled with the operation that it plays**, and finds out at once if that is
suspended. -/
theorem cancel (h : sys.Plays calls s) (i : Nat) :
    ∃ sys', Reaches .undisturbed sys sys' ∧ sys'.Plays calls (s.cancel i) ∧
      ∀ j, s.jobs[i]? = some j → j.IsSuspended s.world.time → ¬ Transcript.Calm (sys'.past i) := by
  rcases s.cancel_cases i with ⟨hnone, hsame⟩ | ⟨j, hj, hnew⟩
  · rw [hsame]
    exact ⟨sys, .refl, h, fun j hj => nomatch hnone.symm.trans hj⟩
  obtain ⟨t, ht, hplayed⟩ := h.exists_task hj
  obtain ⟨hi, -⟩ := List.getElem?_eq_some_iff.mp ht
  have hcancelled := cancelled_playedBy hplayed
  have hstep : Step .undisturbed sys ⟨sys.world, sys.tasks.set i t.cancelled⟩ := .cancel ht
  rcases hnew with ⟨wake, next, hphase, -, hnew⟩ | ⟨hgoes, hnew⟩
  · -- the wait is cut short, as the call is cancelled by then
    have hstands := hplayed.stands
    rw [hphase] at hstands
    generalize hq : t.rest = left at hstands
    cases hstands with
    | waiting _ n _ =>
      let t' : Task :=
        t.cancelled.answered (.wait n) .cancelled fun ended => replying (next ended)
      have hrest : t.cancelled.rest = .ask (.wait n) fun ended => replying (next ended) := hq
      have hanswer : Answers .undisturbed true sys.world (.wait n) .cancelled sys.world :=
        .answered (.wait n)
      have hcut : Step .undisturbed ⟨sys.world, sys.tasks.set i t.cancelled⟩
          ⟨sys.world, (sys.tasks.set i t.cancelled).set i t'⟩ :=
        .exchange (List.getElem?_set_self hi) hrest hanswer
      have hplayed' : Job.PlayedBy s.world.time { j.cancelledBy s.world.time with
          turn := s.turns, phase := .due (next .cancelled) } t' :=
        ⟨.due _, rfl, hcancelled.cancelAt_le⟩
      -- the two steps set the same task, so only the second is left of them
      rw [List.set_set] at hcut
      refine ⟨_, .head hstep (.single hcut), ?_, fun _ _ _ => ?_⟩
      · rw [h.world, hnew]
        exact h.set ht hplayed' rfl rfl _
      · rw [past_set_self ht]
        simp [t', Task.answered, Transcript.calm_cons, Transcript.look?]
  · -- an operation that is not suspended stands where it stood
    refine ⟨_, .single hstep, ?_, fun j' hj' hsuspended => ?_⟩
    · rw [h.world, hnew]
      exact h.set ht hcancelled rfl rfl _
    · obtain rfl := Option.some.inj (hj.symm.trans hj')
      exact absurd hsuspended hgoes

/-- **All that is suspended finds out** that it is cancelled, when it is cancelled with others. -/
theorem foldl_cancel (is : List Nat) (h : sys.Plays calls s) :
    ∃ sys', Reaches .undisturbed sys sys' ∧ sys'.Plays calls (is.foldl Session.cancel s) ∧
      ∀ i ∈ is, ∀ j, s.jobs[i]? = some j → j.IsSuspended s.world.time →
        ¬ Transcript.Calm (sys'.past i) := by
  induction is generalizing sys s with
  | nil => exact ⟨sys, .refl, h, fun i hi => absurd hi List.not_mem_nil⟩
  | cons k rest ih =>
    obtain ⟨hworld, hothers⟩ := s.cancel_others k
    obtain ⟨sys₁, hreach₁, h₁, hcut₁⟩ := h.cancel k
    obtain ⟨sys₂, hreach₂, h₂, hcut₂⟩ := ih h₁
    refine ⟨sys₂, hreach₁.trans hreach₂, h₂, fun i hi j hj hsuspended => ?_⟩
    by_cases hik : i = k
    · -- what a call has been through it does not forget
      subst hik
      obtain ⟨more, hmore⟩ := hreach₂.past_prefix i
      rw [← hmore, Transcript.calm_append, not_and_or]
      exact .inl (hcut₁ j hj hsuspended)
    · -- it is cancelled later, and has been left as it was until then
      have hmem : i ∈ rest := (List.mem_cons.mp hi).resolve_left hik
      exact hcut₂ i hmem j ((hothers i hik).trans hj) (hworld ▸ hsuspended)

theorem moves (h : sys.Plays calls s) (hs : Session.Moves s s') :
    ∃ sys', Reaches .undisturbed sys sys' ∧ sys'.Plays calls s' := by
  cases hs with
  | advance i => exact h.advance i
  | pass htime => exact h.pass htime
  | cancel i =>
    obtain ⟨sys', hreach, hplays, -⟩ := h.cancel i
    exact ⟨sys', hreach, hplays⟩

/-- **Whatever the background does, a system plays it.** -/
theorem goesOn (h : sys.Plays calls s) (hs : s.GoesOn s') :
    ∃ sys', Reaches .undisturbed sys sys' ∧ sys'.Plays calls s' := by
  induction hs with
  | refl => exact ⟨sys, .refl, h⟩
  | tail _ hmove ih =>
    obtain ⟨sys₁, hreach₁, h₁⟩ := ih
    obtain ⟨sys₂, hreach₂, h₂⟩ := h₁.moves hmove
    exact ⟨sys₂, hreach₁.trans hreach₂, h₂⟩

end System.Plays

end Flowgraph
