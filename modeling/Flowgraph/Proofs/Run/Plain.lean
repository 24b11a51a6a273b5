import Flowgraph.Proofs.Run.Whole
import Flowgraph.Proofs.Session.Alone

/-!
# Runs are plain walks

A run that nobody cancels records exactly the steps of the plain walk over the lists of nodes and
edges, and ends as the plain walk stops (`Executor.run_follows_plain_walk`).  The graph must be well
formed, which is checked of every flow before it is stored; the handlers may be any.
-/

namespace Flowgraph

namespace Executor

variable {x : Executor} {flow : Flow} {ctx : Context} {t : Transcript} {fin : Finished}

/-- A run starts in step with the plain walk. -/
theorem inStep_start {v : Node} (h : flow.trigger? = some v) :
    InStep x flow.graph ctx x.limit v ⟨ctx, []⟩ where
  reaches := .start h
  left_add := rfl

/-- The failure that a record names when the walk stops so. -/
def stopFailure (limit : Nat) : PlainWalk.Stop → Option Failure
  | .normally => none
  | .failed fault node => some ⟨fault.kind, fault.message, some node⟩
  | .tooLong node =>
    some ⟨"max_steps_exceeded", "Flow exceeded max steps (" ++ toString limit ++ ")", some node⟩

/-- It is the failure for the fault with which the walk stops. -/
theorem stopFailure_eq (limit : Nat) (stop : PlainWalk.Stop) :
    stopFailure limit stop
      = (stop.fault limit).map fun (fault, node) => .ofFault fault (some node) := by
  cases stop <;> rfl

/-- **A run in which no look has found a cancellation is a plain walk.** -/
theorem Ran.plain (h : Ran x flow ctx t fin) (hg : flow.graph.WellFormed)
    (htrig : flow.trigger?.isSome) (ht : t.Calm) :
    ∃ stop, PlainWalk.Stops x.handlers flow.graph ctx x.limit fin.record.steps fin.context stop ∧
      fin.record.output = fin.context.input ∧
      (fin.record.success = true ↔ stop = .normally) ∧
      fin.record.error = stopFailure x.limit stop := by
  cases h with
  | idle hnone => simp [hnone] at htrig
  | @walked v hsome runId startedAt completedAt logged tw e fin hwalk hfin =>
    subst hfin
    have hcalm : tw.Calm := by
      simp only [Transcript.calm_cons, Transcript.calm_append] at ht
      exact ht.2.2.2.2.1
    cases walk_ends hg (inStep_start hsome) hwalk with
    | calm stop _ hs hf =>
      refine ⟨stop, hs, rfl, ?_, ?_⟩
      · simp only [finished, closing, hf]
        cases stop <;> simp [PlainWalk.Stop.fault]
      · simp only [finished, closing, hf, stopFailure_eq]
    | cut _ _ hcut _ _ _ _ => exact absurd hcalm hcut

/-- **A run that nobody cancels is a plain walk.**  It records the steps of the plain walk and no
others, and the run succeeds if and only if the walk stops normally; otherwise the record names the
fault with which the walk stops and the node that was due.  The limit is what stops it exactly when it is
used up and another node is due.  If no handler puts in a payload of its own, each node sees the last
output before it. -/
theorem run_follows_plain_walk (handlers : Registry) {n : Nat} (hn : 1 ≤ n) {flow : Flow}
    (hv : flow.validate = .ok ()) (htrig : flow.trigger?.isSome) (ctx : Context) (w : World) :
    let fin := (World.run ((withLimit handlers n).run flow ctx) w).1
    ∃ stop, PlainWalk.Stops handlers flow.graph ctx n fin.record.steps fin.context stop ∧
      (∀ steps c stop', PlainWalk.Stops handlers flow.graph ctx n steps c stop' →
        steps = fin.record.steps ∧ c = fin.context ∧ stop' = stop) ∧
      ((∃ node, stop = .tooLong node) ↔ fin.record.steps.length = n ∧
        ∃ v c, PlainWalk.Reaches handlers flow.graph ctx fin.record.steps v c) ∧
      (fin.record.success = true ↔ stop = .normally) ∧
      fin.record.error = stopFailure n stop ∧
      fin.record.output = fin.context.input ∧
      (PlainWalk.KeepsPayload handlers →
        fin.context.input = PlainWalk.payload ctx.input fin.record.steps ∧
        ∀ steps v c, PlainWalk.Reaches handlers flow.graph ctx steps v c →
          c.input = PlainWalk.payload ctx.input steps) := by
  intro fin
  have hlimit : (withLimit handlers n).limit = n := Nat.max_eq_left hn
  have hran : Ran (withLimit handlers n) flow ctx _ fin :=
    run_ran (World.completes_transcript none _ w)
  obtain ⟨stop, hs, ho, hok, herr⟩ :=
    hran.plain (Flow.validate_eq_ok_iff.mp hv) htrig (World.calm_transcript _ w)
  rw [hlimit] at hs herr
  refine ⟨stop, hs, ?_, ?_, hok, herr, ho, fun hkeeps => ?_⟩
  -- the plain walk stops in one way only, so what it does at its limit is what the run does
  · intro steps c stop' hs'
    exact hs'.unique hs
  · constructor
    · rintro ⟨node, rfl⟩
      exact hs.of_tooLong
    · rintro ⟨hl, v, c, hr⟩
      exact ⟨v.id, (hs.unique (.tooLong hr hl)).2.2⟩
  · -- each node sees the last output, where no handler puts in a payload of its own
    exact ⟨hs.input_eq hkeeps, fun _ _ _ hr => hr.input_eq hkeeps⟩

/-- A trigger, and behind it a node that leads back to itself. -/
def treadmill : Flow :=
  let start : Node := ⟨"start", "trigger", Json.empty, .origin⟩
  let again : Node := ⟨"again", "pass", Json.empty, .origin⟩
  .fresh "treadmill" "Treadmill" ""
    ⟨[start, again], [⟨"in", "start", "again", none, none⟩, ⟨"back", "again", "again", none, none⟩]⟩
    ⟨0, 0⟩

/-- On the treadmill the limit is used up while a node is due. -/
theorem run_follows_plain_walk_treadmill :
    let fin := (World.run ((withLimit .empty 2).run treadmill ⟨.str "payload", []⟩)
      (World.start (.memory .empty) ⟨0, 0⟩)).1
    fin.record.steps.map (·.nodeId) = ["start", "again"] ∧ fin.record.success = false ∧
      fin.record.error
        = some ⟨"max_steps_exceeded", "Flow exceeded max steps (2)", some "again"⟩ := by
  intro fin
  have hv : treadmill.validate = .ok () := by decide
  obtain ⟨stop, -, huniq, -, hok, herr, -⟩ :=
    run_follows_plain_walk .empty (by decide : 1 ≤ 2) hv (by decide) ⟨.str "payload", []⟩
      (World.start (.memory .empty) ⟨0, 0⟩)
  have hstart : PlainWalk.Reaches .empty treadmill.graph ⟨.str "payload", []⟩ [] _ _ := .start rfl
  have hagain := (hstart.step rfl rfl).step rfl rfl
  obtain ⟨hsteps, -, rfl⟩ := huniq _ _ _ (.tooLong hagain rfl)
  refine ⟨?_, ?_, herr⟩
  · rw [← hsteps]
    rfl
  · rw [← Bool.not_eq_true, hok]
    exact nofun

end Executor

end Flowgraph
