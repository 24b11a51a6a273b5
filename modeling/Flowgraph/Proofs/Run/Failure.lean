import Flowgraph.Proofs.Handler.Builtin
import Flowgraph.Proofs.Run.Plain

/-!
# Why runs fail

On a well-formed graph a run fails for one of four causes (`Executor.Ran.cause`): there is no
trigger, the run is cancelled, the limit is used up, or the handler of a node of the flow fails.
That an edge leads to no node is not among them, so no run with the built-in handlers ever ends with
that fault (`Executor.Cause.ne_missingTarget`).
-/

namespace Flowgraph

namespace Executor

/-- **Why a run may fail.** -/
inductive Cause (x : Executor) (flow : Flow) : Fault → Prop
  | noTrigger (h : flow.trigger? = none) : Cause x flow (.noTrigger flow.id)
  | cancelled : Cause x flow .cancelled
  | tooLong : Cause x flow (.maxSteps x.limit)
  /-- The handler of a node has failed by itself. -/
  | handler {v : Node} {ctx : Context} {fault : Fault} (hv : v ∈ flow.graph.nodes)
      (h : (x.handlers.get v.type v ctx).result = .error fault) : Cause x flow fault

variable {x : Executor} {flow : Flow} {ctx : Context} {t : Transcript} {fin : Finished}

/-- A walk fails for one of the causes. -/
theorem WalkEnds.cause {e : Ending} (h : WalkEnds x.handlers flow.graph ctx x.limit t e)
    {fault : Fault} {node : String} (he : e.fault = some (fault, node)) : Cause x flow fault := by
  cases h with
  | cut v c _ _ _ hf _ =>
    rw [hf] at he
    cases he
    exact .cancelled
  -- otherwise the plain walk has stopped with the fault
  | calm stop _ hs hf =>
    rw [hf] at he
    cases stop with
    | normally => exact nomatch he
    | tooLong node =>
      cases he
      exact .tooLong
    | failed fault node =>
      cases he
      obtain ⟨v, hv, -, ctx', hres⟩ := hs.of_failed
      exact .handler hv hres

/-- **A run on a well-formed graph fails for one of the causes.** -/
theorem Ran.cause (h : Ran x flow ctx t fin) (hg : flow.graph.WellFormed) {failure : Failure}
    (hf : fin.record.error = some failure) :
    ∃ fault node, failure = ⟨fault.kind, fault.message, node⟩ ∧ Cause x flow fault := by
  cases h with
  | idle hnone _ _ _ _ hfin =>
    subst hfin
    exact ⟨_, _, (Option.some.inj hf).symm, .noTrigger hnone⟩
  | walked hsome _ _ _ _ hwalk hfin =>
    subst hfin
    obtain ⟨⟨fault, node⟩, he, rfl⟩ := Option.map_eq_some_iff.mp hf
    exact ⟨fault, some node, rfl, (walk_ends hg (inStep_start hsome) hwalk).cause he⟩

/-- **No run with tame handlers fails because an edge leads nowhere.** -/
theorem Cause.ne_missingTarget {fault : Fault} (h : Cause x flow fault)
    (hx : ∀ type, (x.handlers.get type).Tame) (edge target : String) :
    fault ≠ .handlerFailure edge (.missingTarget target) := by
  rintro rfl
  -- only a handler could have failed so, and a tame one tells of its own node
  cases h with
  | @handler v ctx _ hv hres => exact nomatch (hx v.type).result v ctx _ hres

end Executor

end Flowgraph
