import Flowgraph.Proofs.Run.Whole
import Flowgraph.Proofs.Session.Alone

/-!
# What determines a run

Apart from its id and from the clock, a run is told only one thing by the world: what it finds when
it looks at its cancellation.  `World.runLooking` runs an operation alone and lets its looks find
what it is given.  A run alone whose looks find what the looks of a run among others have found goes
the same way (`Executor.run_runLooking`), whatever the others have done in the meantime.
-/

namespace Flowgraph

open Interaction (Completes completes_ask_iff completes_bind_iff completes_done_iff)

namespace World

variable {α β : Type}

/-- **Runs an operation alone, its looks finding what they are to find**, one after the other, and
no cancellation once that is used up. -/
def runLooking : List Bool → Operation α → World → α × World
  | _, .done a, w => (a, w)
  | found, .ask .isCancelled next, w => runLooking found.tail (next (found.headD false)) w
  | found, .ask (.wait n) next, w =>
    if found.headD false then runLooking found.tail (next .cancelled) w
    else runLooking found.tail (next .elapsed) { w with time := w.time + n }
  | found, .ask q next, w =>
    let (a, w') := w.answer false q
    runLooking found (next a) w'

/-- Where no look finds a cancellation, this is the operation alone that nobody cancels. -/
theorem runLooking_eq_run (o : Operation α) (w : World) {found : List Bool} (h : true ∉ found) :
    runLooking found o w = run o w := by
  induction o generalizing w found with
  | done a => rfl
  | ask q next ih =>
    -- what the next look finds, if there is one
    have hhead : found.headD false = false := by
      cases found with
      | nil => rfl
      | cons b rest =>
        rw [List.mem_cons, not_or] at h
        simpa using Ne.symm h.1
    have htail : true ∉ found.tail := fun ht => h (List.mem_of_mem_tail ht)
    rcases q.wait_cases with ⟨n, rfl⟩ | hq
    · rw [run_wait, ← ih _ _ htail]
      simp only [runLooking, hhead, Bool.false_eq_true, if_false]
    · rw [run_ask hq]
      cases q with
      | isCancelled =>
        rw [runLooking, hhead, ih _ _ htail]
        rfl
      | wait n => exact absurd rfl (hq n)
      | _ => exact ih _ _ h

end World

open World (runLooking)

/-! ### The same looks, the same way -/

variable {β : Type} {t : Transcript}

/-- A reaction that settles with the same looks settles in the same way. -/
theorem Reaction.settle_runLooking {r : Reaction} {res : Except Fault Outcome} (more : List Bool)
    (w : World) (h : Completes r.settle t res) (f : Except Fault Outcome → Operation β) :
    ∃ w', runLooking (t.looks ++ more) (r.settle.bind f) w = runLooking more (f res) w' := by
  rw [settle_eq]
  rcases settle_cases h with ⟨hw, rfl, rfl⟩ | ⟨hw, rfl, rfl⟩ | ⟨hw, rfl, rfl⟩
  · rw [if_pos hw]
    exact ⟨w, rfl⟩
  · rw [if_neg hw]
    exact ⟨_, rfl⟩
  · rw [if_neg hw]
    exact ⟨w, rfl⟩

namespace Executor

variable {x : Executor} {g : Graph} {runId flowId : String} {left : Nat} {v : Node}
  {p : Progress} {e : Ending}

/-- What a walk has found before its looks after the node that was due. -/
theorem looks_node {t₁ t₂ : Transcript} :
    Transcript.looks (⟨.isCancelled, false⟩ :: (t₁ ++ t₂))
      = false :: (Transcript.looks t₁ ++ Transcript.looks t₂) := by
  simp [Transcript.looks_cons, Transcript.look?]

/-- A walk that finds no cancellation comes through the handler of its node in the same way. -/
theorem node_runLooking (runId' : String) (more : List Bool) (w : World)
    {res : Except Fault Outcome} (h : Completes (x.reaction v p).settle t res)
    (f : Ending → Operation β) :
    ∃ w', runLooking (false :: (t.looks ++ more)) ((x.walk g runId' flowId (left + 1) v p).bind f) w
      = runLooking more ((afterNode x g runId' flowId left v p res).bind f) w' := by
  rw [walk_succ]
  show ∃ w', runLooking (_ ++ more) ((Interaction.bind _ _).bind f) w = _
  rw [Interaction.bind_assoc]
  exact Reaction.settle_runLooking more w h fun res =>
    (afterNode x g runId' flowId left v p res).bind f

/-- **A walk with the same looks goes the same way**, under whatever id of the run. -/
theorem walk_runLooking (runId' : String) (more : List Bool) (w : World)
    (h : Completes (x.walk g runId flowId left v p) t e)
    (f : Ending → Operation β) :
    ∃ w', runLooking (t.looks ++ more) ((x.walk g runId' flowId left v p).bind f) w
      = runLooking more (f e) w' := by
  induction left generalizing v p t w with
  | zero => cases walk_walked h <;> exact ⟨w, rfl⟩
  | succ left ih =>
    -- the edge that is followed depends on the outcome, and that is the same
    cases walk_walked h with
    | cancelled => exact ⟨w, rfl⟩
    | failed hsettle => exact node_runLooking runId' more w hsettle f
    | ended hsettle hedge =>
      rw [looks_node, List.cons_append, List.append_assoc]
      obtain ⟨w₁, hw₁⟩ := node_runLooking (g := g) runId' more w hsettle f
      rw [afterNode, hedge] at hw₁
      exact ⟨_, hw₁⟩
    | lost hsettle hedge htarget =>
      rw [looks_node, List.cons_append, List.append_assoc]
      obtain ⟨w₁, hw₁⟩ := node_runLooking (g := g) runId' more w hsettle f
      simp only [afterNode, hedge, htarget] at hw₁
      exact ⟨_, hw₁⟩
    | @on _ _ t' _ _ _ _ hsettle hedge htarget hwalk =>
      rw [looks_node, List.cons_append, List.append_assoc]
      obtain ⟨w₁, hw₁⟩ :=
        node_runLooking (g := g) runId' (Transcript.looks t' ++ more) w hsettle f
      simp only [afterNode, hedge, htarget] at hw₁
      obtain ⟨w₂, hw₂⟩ := ih (World.answer false w₁ (.publish _)).2 hwalk
      exact ⟨w₂, hw₁.trans hw₂⟩

/-! ### Whole runs -/

/-- **Two runs have gone the same way**: they agree in everything but their ids and instants. -/
structure Finished.Agrees (fin fin' : Finished) : Prop where
  steps : fin'.record.steps = fin.record.steps
  output : fin'.record.output = fin.record.output
  success : fin'.record.success = fin.record.success
  error : fin'.record.error = fin.record.error
  context : fin'.context = fin.context

variable {flow : Flow} {ctx : Context} {fin : Finished}

variable {runId₁ runId₂ : String} {startedAt₁ startedAt₂ completedAt₁ completedAt₂ : Instant}

theorem idle_agrees :
    (idle flow ctx runId₁ startedAt₁ completedAt₁).Agrees
      (idle flow ctx runId₂ startedAt₂ completedAt₂) := ⟨rfl, rfl, rfl, rfl, rfl⟩

theorem finished_agrees :
    (finished flow ctx runId₁ startedAt₁ completedAt₁ e).Agrees
      (finished flow ctx runId₂ startedAt₂ completedAt₂ e) := ⟨rfl, rfl, rfl, rfl, rfl⟩

/-- **A run alone with the same looks goes the same way.** -/
theorem run_runLooking (h : Completes (x.run flow ctx) t fin) (w : World) :
    fin.Agrees (runLooking t.looks (x.run flow ctx) w).1 := by
  cases run_ran h with
  | idle hnone _ _ _ _ hfin =>
    subst hfin
    rw [run_of_no_trigger hnone]
    simp only [runLooking]
    exact idle_agrees
  | @walked v hsome runId startedAt completedAt logged tw e _ hwalk hfin =>
    subst hfin
    rw [run_of_trigger hsome]
    simp only [runLooking]
    -- what the world answers before the walk starts does not matter
    generalize (w.answer false .freshRunId).1 = runId'
    generalize (World.answer false _ .clock).1 = startedAt'
    generalize (World.answer false _ (.publish (.runStarted _ _))).2 = w'
    obtain ⟨w'', hwalk'⟩ := walk_runLooking runId' [] w' hwalk
      (afterWalk flow ctx runId' startedAt')
    simp only [Transcript.looks_cons, Transcript.looks_append, Transcript.looks_nil,
      Transcript.look?, Option.toList_none, List.nil_append]
    rw [hwalk']
    simp only [afterWalk, runLooking]
    exact finished_agrees

end Executor

end Flowgraph
