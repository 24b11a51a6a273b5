import Flowgraph.Proofs.Concurrent.System
import Flowgraph.Proofs.Run.Failure
import Flowgraph.Proofs.Store.Sound

/-!
# Stored graphs are well formed

Whatever calls go on at the same time, and in whatever order their requests are answered, the graphs
in the store are well formed (`System.stored_graphs_wellFormed`).  An update may put a new half of a
graph beside a half that has been replaced since it was loaded.  That does no harm: what is written
back is not the half but the whole graph that was checked.

The invariant is about store and calls together: the store is sound, and each call has loaded
well-formed graphs only (`Task.Fed`).  Then the next request of the call stores none but such, since
its operation is made so (`Call.operation_meets`).

A flow that is run has been loaded, so each of its edges leads to a node, and no run finds an edge
that does not.
-/

namespace Flowgraph

/-- **Nobody but the calls changes the store**; the store may refuse any request. -/
def Rules.closed : Rules := ⟨fun w w' => w'.store = w.store, fun _ => True⟩

/-- **What every answer keeps, every step keeps**, if it is about the store. -/
theorem Rules.closed_preserves {P : World → Prop}
    (hstore : ∀ w w' : World, w'.store = w.store → P w → P w')
    (hanswer : ∀ (w : World) cancelled q, P w → P (w.answer cancelled q).2) :
    Rules.closed.Preserves P fun _ => True where
  start _ := trivial
  cancel _ _ := trivial
  change w w' hw hsame := hstore w w' hsame hw
  exchange {w t q next a w'} hw _ _ ha := by
    refine ⟨?_, trivial⟩
    -- a request is answered by the store, or leaves the world as it is
    cases ha with
    | answered => exact hanswer w _ q hw
    | elapsed n => exact hw
    | refused _ _ _ _ _ => exact hw

/-! ### What calls store -/

/-- A run stores no flow. -/
theorem Request.storesSound_of_runAsks {q : Request} (h : Executor.RunAsks q) : q.StoresSound := by
  cases q <;> first | exact trivial | exact absurd h id

/-- **Who loads well-formed graphs only, stores well-formed graphs only.** -/
theorem Call.operation_meets (call : Call) :
    call.operation.Meets Request.LoadsSound Request.StoresSound fun _ => True := by
  refine call.operation_meets_of fun q hq => ?_
  cases hq with
  | created hg => exact Draft.wellFormed_of_graph hg
  | imported hg => exact hg
  | updated hload happly =>
    -- whatever the new half is, it has been checked beside the other half as it was loaded
    exact Update.wellFormed_of_apply (hload _ rfl) happly
  | ran hq => exact Request.storesSound_of_runAsks hq
  | _ => trivial

/-! ### The invariant -/

/-- **A call that has loaded well-formed graphs only.** -/
structure Task.Fed (t : Task) : Prop where
  after : t.call.operation.After t.past t.rest
  loads : ∀ e ∈ t.past, e.1.LoadsSound e.2

/-- An answer from a sound store loads a well-formed graph and leaves a sound store. -/
theorem Answers.sound {rules : Rules} {isCancelled : Bool} {w w' : World} {q : Request}
    {a : q.Answer} (h : Answers rules isCancelled w q a w') (hw : w.store.Sound)
    (hq : q.StoresSound) : w'.store.Sound ∧ q.LoadsSound a := by
  cases h with
  | answered => exact ⟨World.answer_sound hw _ hq, World.answer_loads hw _ q⟩
  | elapsed n => exact ⟨hw, trivial⟩
  | refused _ _ _ _ ha =>
    refine ⟨hw, ?_⟩
    cases q <;> trivial

theorem Task.Fed.preserves :
    Rules.closed.Preserves (fun w => w.store.Sound) Task.Fed := by
  refine .of_meets Call.operation_meets
    (fun t => ⟨fun ht => ⟨ht.after, ht.loads⟩, fun ht => ⟨ht.1, ht.2⟩⟩) ?_ Answers.sound
  intro w w' hw hsame
  have hstore : w'.store = w.store := hsame
  rwa [hstore]

/-! ### Runs on loaded flows -/

/-- **The failure of a run that an execution has brought about**, if it is one: the cause is among
those of a run, and lies with a handler if it is said that an edge leads to no node. -/
def FailsSoundly (x : Executor) (flow : Flow) (r : Record) : Prop :=
  ∀ failure, r.error = some failure → ∃ fault node, failure = ⟨fault.kind, fault.message, node⟩ ∧
    Executor.Cause x flow fault ∧
    ∀ agents settings, x.handlers = .builtin agents settings →
      ∀ edge target, fault ≠ .handlerFailure edge (.missingTarget target)

/-- Every record of an execution that has loaded a well-formed graph fails soundly, if it does. -/
theorem Task.Fed.records {t : Task} (ht : t.Fed) (hs : t.Sound) {x : Executor} {id : String}
    {ctx : Context} (hcall : t.call = .execute x id ctx) {r : Record} (hr : r ∈ t.past.appended) :
    ∃ flow, t.past.head? = some ⟨.get id, .ok (some flow)⟩ ∧ flow.graph.WellFormed ∧
      FailsSoundly x flow r := by
  -- the execution may still be under way, so the record is one of what it will have left
  obtain ⟨future, res, hexec⟩ := hs.exists_executed hcall
  have hmem : r ∈ Transcript.appended (t.past ++ future) := by
    rw [Transcript.appended_append]
    exact List.mem_append_left _ hr
  rcases hexec.outcome with ⟨-, hnone⟩ | ⟨flow, fin, tr, -, hhead, hrun, -, happended⟩
  · rw [hnone] at hmem
    exact absurd hmem List.not_mem_nil
  · have hpast : t.past.head? = some ⟨.get id, .ok (some flow)⟩ := by
      cases hp : t.past with
      | nil =>
        rw [hp] at hr
        exact absurd hr List.not_mem_nil
      | cons e rest =>
        rw [hp] at hhead
        exact hhead
    -- the flow that is run is the one that was loaded first
    have hg : flow.graph.WellFormed := ht.loads _ (List.mem_of_head? hpast) flow rfl
    refine ⟨flow, hpast, hg, fun failure hfailure => ?_⟩
    rw [happended, List.mem_singleton] at hmem
    obtain ⟨fault, node, rfl, hcause⟩ := (Executor.run_ran hrun).cause hg (hmem ▸ hfailure)
    refine ⟨fault, node, rfl, hcause, fun agents settings hx => ?_⟩
    refine hcause.ne_missingTarget fun type => ?_
    rw [hx]
    exact Registry.tame_builtin_get agents settings type

/-- **Stored graphs are well formed at every moment.**  Begin with an empty store of either kind, and
let any calls come in at any time, each of their requests be answered at one moment and refused at
will.  Then every flow in the store has a well-formed graph, and so has every flow that is loaded.
Every execution that comes to an end has left its record; and whatever record an execution has left,
the flow that it loaded was well formed, all its edges lead to a node, and no run with the built-in
handlers has failed because an edge does not. -/
theorem System.stored_graphs_wellFormed {w : World}
    (hw : w.store = .memory .empty ∨ w.store = .rows .empty) {s : System}
    (hs : System.Reaches .closed (.idle w) s) :
    s.world.store.Sound ∧
      (∀ id flow, s.world.store.get id = .ok (some flow) → flow.validate = .ok ()) ∧
      (∀ flows, s.world.store.list = .ok flows → ∀ flow ∈ flows, flow.validate = .ok ()) ∧
      ∀ t ∈ s.tasks, ∀ x id ctx, t.call = .execute x id ctx →
        (∀ fin, t.rest = .done (.ok (.finished fin)) → fin.record ∈ t.past.appended) ∧
        ∀ r ∈ t.past.appended, ∃ flow, t.past.head? = some ⟨.get id, .ok (some flow)⟩ ∧
          flow.validate = .ok () ∧ (∀ e ∈ flow.graph.edges, (flow.graph.target? e).isSome) ∧
          FailsSoundly x flow r := by
  have hstart : w.store.Sound := by
    rcases hw with hw | hw
    · rw [hw]
      exact fun f hf => absurd hf List.not_mem_nil
    · rw [hw]
      exact RowStore.sound_of_rows fun r hr => absurd hr List.not_mem_nil
  -- one invariant of store and calls together, kept by every step
  obtain ⟨hstore, htasks⟩ := Task.Fed.preserves.reached hstart hs
  refine ⟨hstore, ?_, ?_, ?_⟩
  · intro id flow h
    exact Flow.validate_eq_ok_iff.mpr (hstore.wellFormed_of_get h)
  · intro flows h flow hflow
    exact Flow.validate_eq_ok_iff.mpr (hstore.wellFormed_of_list h flow hflow)
  · intro t ht x id ctx hcall
    -- whatever an execution has left is the record of its run
    have hsound := hs.sound ht
    constructor
    · intro fin hfin
      obtain ⟨res, hexec, hres⟩ := hsound.executed hcall hfin
      rcases hexec.outcome with ⟨⟨e, rfl⟩, -⟩ | ⟨flow, fin', tr, rfl, -, -, -, happended⟩
      · exact nomatch hres
      · cases hres
        rw [happended]
        exact List.mem_singleton.mpr rfl
    · intro r hr
      obtain ⟨flow, hhead, hg, hfails⟩ := (htasks t ht).records hsound hcall hr
      refine ⟨flow, hhead, Flow.validate_eq_ok_iff.mpr hg, fun e he => ?_, hfails⟩
      obtain ⟨n, -, hn⟩ := hg.exists_target he
      rw [hn]
      rfl

namespace System

/-- Two updates of a flow that both load it before either stores it: one drops a node, and the other
adds an edge to this very node. -/
def halfUpdates : List Move :=
  let start : Node := ⟨"start", "trigger", Json.empty, .origin⟩
  let stop : Node := ⟨"stop", "end", Json.empty, .origin⟩
  let edge : Json :=
    Json.ofMembers [("id", .str "in"), ("source", .str "start"), ("target", .str "stop")]
  [.call (.importFlow (.fresh "pair" "Pair" "" ⟨[start, stop], []⟩ ⟨0, 0⟩)), .go 0,
    .call (.update "pair" ⟨none, none, some [start.toJson], none⟩),
    .call (.update "pair" ⟨none, none, none, some [edge]⟩), .go 1, .go 2, .go 1, .go 2]

/-- The half that is stored last brings its other half along. -/
theorem stored_graphs_wellFormed_halfUpdates :
    ∃ s, (idle (.start (.memory .empty) ⟨0, 0⟩)).play? halfUpdates = some s ∧
      s.world.store.list.map (·.map fun flow => (flow.graph.nodeIds, flow.graph.edgeIds))
        = .ok [(["start", "stop"], ["in"])] ∧
      s.world.store.Sound := by
  have hgraphs : ((idle (.start (.memory .empty) ⟨0, 0⟩)).play? halfUpdates).map (fun s =>
      s.world.store.list.map (·.map fun flow => (flow.graph.nodeIds, flow.graph.edgeIds)))
        = some (.ok [(["start", "stop"], ["in"])]) := by rfl
  obtain ⟨s, hs, hs'⟩ := Option.map_eq_some_iff.mp hgraphs
  exact ⟨s, hs, hs', (stored_graphs_wellFormed (.inl rfl) (reaches_of_play? hs)).1⟩

end System

end Flowgraph
