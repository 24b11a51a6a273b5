import Flowgraph.Proofs.Handler.Builtin
import Flowgraph.Proofs.Run.Plain

/-!
# Cancelled runs

A run that is cancelled before it is over is cut at a node that the plain walk reaches
(`Executor.Ran.cut`).  So the steps of the run that is cancelled at some time are the first steps of
the run that is not, and everything it leaves behind is what there was after these steps; and a run
that is over before the cancellation is not changed by it (`Executor.cancellation_cuts`).

A run looks for a cancellation at three places: before each node, in a delay, and while an agent
thinks.  A look that finds one ends the run at the same node in each case, since a built-in handler
leaves the context alone.
-/

namespace Flowgraph

namespace Executor

variable {x : Executor} {flow : Flow} {ctx : Context} {t : Transcript} {fin : Finished}

/-- Tame handlers put in no payload of their own. -/
theorem keepsPayload_of_tame {handlers : Registry} (h : ∀ type, (handlers.get type).Tame) :
    PlainWalk.KeepsPayload handlers := fun type v c =>
  congrArg (·.input) ((h type).context v c)

/-- **A run that is cut** at a node that was due. -/
structure CutAt (x : Executor) (flow : Flow) (ctx : Context) (v : Node) (fin : Finished) :
    Prop where
  reaches : PlainWalk.Reaches x.handlers flow.graph ctx fin.record.steps v fin.context
  length_le : fin.record.steps.length ≤ x.limit
  input : fin.context.input = PlainWalk.payload ctx.input fin.record.steps
  output : fin.record.output = fin.context.input
  success : fin.record.success = false
  error : fin.record.error = some ⟨"cancelled", "Run cancelled", some v.id⟩
  status : fin.flow.status = .error

/-- **A run in which a look has found a cancellation is cut** at a node of the plain walk. -/
theorem Ran.cut (h : Ran x flow ctx t fin) (hg : flow.graph.WellFormed)
    (hx : ∀ type, (x.handlers.get type).Tame) (ht : ¬ t.Calm) : ∃ v, CutAt x flow ctx v fin := by
  cases h with
  -- without a trigger nothing looks for a cancellation
  | idle _ _ _ _ _ _ => exact absurd (by simp [Transcript.calm_cons, Transcript.look?]) ht
  | @walked v hsome runId startedAt completedAt logged tw e fin hwalk hfin =>
    subst hfin
    -- all the looks of a run are those of its walk
    have hcut : ¬ tw.Calm := by
      intro hcalm
      refine ht ?_
      simp [Transcript.calm_cons, Transcript.look?, hcalm]
    cases walk_ends hg (inStep_start hsome) hwalk with
    | calm _ hcalm _ _ => exact absurd hcalm hcut
    | cut u c _ hr hl hf hc =>
      -- if the handler was cut short while it waited, it has left the context alone
      have hcontext : e.progress.context = c := by
        rcases hc with hc | hc
        · exact hc
        · exact hc.trans ((hx u.type).context _ _)
      rw [← hcontext] at hr
      refine ⟨u, hr, hl, hr.input_eq (keepsPayload_of_tame hx), rfl, ?_, ?_, ?_⟩
      · simp only [finished, closing, hf, Option.isNone_some]
      · simp only [finished, closing, hf, Option.map_some]
        rfl
      · simp [finished, hf, Flow.withLife]

/-- A run that has a trigger and is cancelled at its first look takes no step. -/
theorem Ran.steps_eq_nil (h : Ran x flow ctx t fin)
    (ht : ∀ found ∈ t.looks, found = true) : fin.record.steps = [] := by
  cases h with
  | idle _ _ _ _ _ hfin => rw [hfin]; rfl
  | walked _ _ _ _ _ hwalk hfin =>
    subst hfin
    obtain ⟨found, t', rfl, he⟩ := walk_first_look hwalk
    have hfound : found = true := ht found (by simp [Transcript.looks_cons, Transcript.look?])
    rw [he hfound]
    rfl

/-- A run that has a trigger looks for a cancellation at least once. -/
theorem Ran.looks_ne_nil (h : Ran x flow ctx t fin) (htrig : flow.trigger?.isSome) :
    t.looks ≠ [] := by
  cases h with
  | idle hnone _ _ _ _ _ => simp [hnone] at htrig
  | walked _ _ _ _ _ hwalk _ =>
    obtain ⟨found, t', rfl, -⟩ := walk_first_look hwalk
    simp [Transcript.looks_cons, Transcript.look?]

/-- **The run that is cancelled beside the one that is not**, each with the world it leaves. -/
structure CutShort (x : Executor) (flow : Flow) (ctx : Context) (w : World)
    (whole cut : Finished × World) : Prop where
  /-- The steps are the first steps of the whole run. -/
  steps_prefix : cut.1.record.steps <+: whole.1.record.steps
  /-- The run has failed at the node that was due, with what there was then. -/
  cutAt : ∃ v, CutAt x flow ctx v cut.1
  /-- It has published its events like any failed run. -/
  unread : cut.2.unread = (announced cut.1.record).reverse ++ w.unread
  /-- It has left its record in the log like any failed run. -/
  store : cut.2.store = (w.store.append cut.1.record).2

/-- **A run alone that finds a cancellation is cut short**, if the flow has a trigger. -/
theorem cutShort_of_not_calm (hg : flow.graph.WellFormed) (htrig : flow.trigger?.isSome)
    (hx : ∀ type, (x.handlers.get type).Tame) {w : World} {cancelAt : Option Nat}
    (ht : ¬ Transcript.Calm (World.transcript cancelAt (x.run flow ctx) w)) :
    CutShort x flow ctx w (World.run (x.run flow ctx) w)
      (World.runAlone cancelAt (x.run flow ctx) w) := by
  have hwhole := run_ran (World.completes_transcript none (x.run flow ctx) w)
  have hran := run_ran (World.completes_transcript cancelAt (x.run flow ctx) w)
  obtain ⟨stop, hs, -⟩ := hwhole.plain hg htrig (World.calm_transcript _ w)
  obtain ⟨v, hcut⟩ := hran.cut hg hx ht
  refine ⟨hcut.reaches.prefix_of_stops hcut.length_le hs, ⟨v, hcut⟩, ?_, ?_⟩
  · rw [World.runAlone_unread, hran.published, if_pos htrig]
  · have hasks := (run_meets x flow ctx).requests
      (World.completes_transcript cancelAt (x.run flow ctx) w) fun _ _ => trivial
    rw [World.runAlone_store _ _ _ fun e he => not_changesFlows_of_runAsks (hasks e he),
      hran.appended]
    rfl

/-- **A cancellation cuts a run at a prefix of its steps.**  Take a run with the built-in handlers
and the same run cancelled `c` milliseconds after its start, where no wait ends at this very time.
If `c` is zero or the run takes longer, then the cancelled run is cut short: its steps are the first
ones of the run, and none if `c` is zero; it fails as cancelled at the node that was due, with the
payload and the variables as they were after these steps, leaves the flow in error, and publishes
and logs like any failed run.  Otherwise the cancellation changes nothing. -/
theorem cancellation_cuts (agents : Directory) (settings : Settings) (limit : Nat) {flow : Flow}
    (hv : flow.validate = .ok ()) (htrig : flow.trigger?.isSome) (ctx : Context) (w : World)
    (c : Nat)
    (hc : c ≠ 0 →
      w.time + c ∉ World.wakes ((Executor.mk (.builtin agents settings) limit).run flow ctx) w) :
    let x : Executor := ⟨.builtin agents settings, limit⟩
    let whole := World.run (x.run flow ctx) w
    let cancelled := World.runAlone (some (w.time + c)) (x.run flow ctx) w
    (c = 0 ∨ c < whole.2.time - w.time →
      CutShort x flow ctx w whole cancelled ∧ (c = 0 → cancelled.1.record.steps = [])) ∧
      (¬ (c = 0 ∨ c < whole.2.time - w.time) → cancelled = whole) := by
  intro x whole cancelled
  have hg := Flow.validate_eq_ok_iff.mp hv
  -- one transcript carries both runs: they agree as long as no look has found the cancellation
  have hran := run_ran (World.completes_transcript (some (w.time + c)) (x.run flow ctx) w)
  rcases Nat.eq_zero_or_pos c with rfl | hpos
  · -- cancelled from the beginning: the first look finds it, and no step has been taken
    have hlooks := World.looks_transcript_of_le (x.run flow ctx) w (Nat.le_refl w.time)
    refine ⟨fun _ => ⟨cutShort_of_not_calm hg htrig (Registry.tame_builtin_get _ _) ?_,
      fun _ => hran.steps_eq_nil hlooks⟩, fun h => absurd (.inl rfl) h⟩
    obtain ⟨found, hfound⟩ := List.exists_mem_of_ne_nil _ (hran.looks_ne_nil htrig)
    exact fun hcalm => hcalm (hlooks found hfound ▸ hfound)
  · -- cancelled later: by the time of the cancellation the run still waits, or it is over
    have hstart : w.time < w.time + c := Nat.lt_add_of_pos_right hpos
    have hwake := hc (Nat.ne_of_gt hpos)
    refine ⟨?_, ?_⟩
    · rintro (rfl | hlt)
      · exact absurd hpos (Nat.lt_irrefl 0)
      · have hend : w.time + c < whole.2.time := by omega
        exact ⟨cutShort_of_not_calm hg htrig (Registry.tame_builtin_get _ _)
          (World.not_calm_transcript hstart hwake hend), fun h => absurd h (Nat.ne_of_gt hpos)⟩
    · intro h
      have hend : whole.2.time ≤ w.time + c := by
        have hle : w.time ≤ whole.2.time := World.le_run_time _ _
        omega
      exact World.runAlone_eq_run hstart hwake hend

/-- A trigger, and behind it an agent that is asked. -/
def question : Flow :=
  let start : Node := ⟨"start", "trigger", Json.empty, .origin⟩
  let ask : Node := ⟨"ask", "agent", Json.ofMembers [("agent_id", .str "sage")], .origin⟩
  .fresh "question" "Question" "" ⟨[start, ask], [⟨"in", "start", "ask", none, none⟩]⟩ ⟨0, 0⟩

/-- The agent thinks for 300 milliseconds, so that a cancellation after 100 cuts the run, and one
after 500 does not. -/
theorem cancellation_cuts_question :
    let x : Executor := ⟨.builtin (.ofList [.slow "sage" 300]) .standard, 10⟩
    let ctx : Context := ⟨.str "why", []⟩
    let w := World.start (.memory .empty) ⟨0, 0⟩
    CutShort x question ctx w (World.run (x.run question ctx) w)
        (World.runAlone (some 100) (x.run question ctx) w) ∧
      World.runAlone (some 500) (x.run question ctx) w = World.run (x.run question ctx) w := by
  intro x ctx w
  have hv : question.validate = .ok () := by decide
  have hwakes : World.wakes (x.run question ctx) w = [300] := rfl
  have htime : (World.run (x.run question ctx) w).2.time = 300 := rfl
  have hw : w.time = 0 := rfl
  have hearly := (cancellation_cuts (.ofList [.slow "sage" 300]) .standard 10 hv (by decide) ctx w
    100 (by rw [hwakes]; decide)).1
  have hlate := (cancellation_cuts (.ofList [.slow "sage" 300]) .standard 10 hv (by decide) ctx w
    500 (by rw [hwakes]; decide)).2
  refine ⟨(hearly (.inr ?_)).1, hlate ?_⟩
  · rw [htime, hw]
    decide
  · rw [htime, hw]
    decide

end Executor

end Flowgraph
