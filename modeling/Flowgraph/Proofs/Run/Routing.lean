import Flowgraph.Proofs.Handler.Builtin
import Flowgraph.Proofs.Run.Determined
import Flowgraph.Proofs.Run.Plain

/-!
# What a run sees of its flow

A run sees of a flow its id, the id of its first trigger, the ids, types and data of its nodes, and
of the edges out of each node the ports and the targets, in their order.  `Graph.RoutesAs` says that
two graphs are the same to a run.  Two flows with one id and such graphs make the same requests and
leave the same record and the same context (`Executor.run_eq_of_routesAs`): where the nodes are
placed, how edges enter their targets, what edges and flows are called and how a flow has fared so
far makes no difference, and neither does the order of nodes, nor that of edges that leave different
nodes.
-/

namespace Flowgraph

/-! ### Nodes -/

/-- Two nodes are the same to a run: they may be placed differently. -/
structure Node.WorksAs (n n' : Node) : Prop where
  id : n.id = n'.id
  type : n.type = n'.type
  data : n.data = n'.data

instance (n n' : Node) : Decidable (n.WorksAs n') :=
  decidable_of_iff (n.id = n'.id ∧ n.type = n'.type ∧ n.data = n'.data)
    ⟨fun ⟨hid, htype, hdata⟩ => ⟨hid, htype, hdata⟩, fun h => ⟨h.id, h.type, h.data⟩⟩

theorem Node.WorksAs.exists_eq {n n' : Node} (h : n.WorksAs n') :
    ∃ place, n' = { n with position := place } := by
  obtain ⟨id, type, data, place⟩ := n
  obtain ⟨id', type', data', place'⟩ := n'
  obtain ⟨rfl, rfl, rfl⟩ := h
  exact ⟨place', rfl⟩

namespace Handler

/-- The handler does not look where the node is placed. -/
def IgnoresPlace (h : Handler) : Prop :=
  ∀ (node : Node) (place : Position) (ctx : Context), h { node with position := place } ctx = h node ctx

theorem ignoresPlace_ofType (agents : Directory) (settings : Settings) (t : NodeType) :
    IgnoresPlace (ofType agents settings t) := by
  intro node place ctx
  cases t <;> rfl

end Handler

/-- **No built-in handler looks where the node is placed.** -/
theorem Registry.ignoresPlace_builtin_get (agents : Directory) (settings : Settings)
    (type : String) : ((builtin agents settings).get type).IgnoresPlace :=
  forall_builtin_get (Handler.ignoresPlace_ofType agents settings) (fun _ _ _ => rfl) type

/-! ### Graphs -/

namespace Graph

/-- What a run sees of an edge out of a node. -/
def route (e : Edge) : Option String × String := (e.sourcePort, e.target)

/-- What a run sees of the edges out of a node, in their order. -/
def routes (g : Graph) (node : String) : List (Option String × String) :=
  (g.outbound node none).map route

/-- **Two graphs are the same to a run.** -/
structure RoutesAs (g g' : Graph) : Prop where
  /-- Runs start at nodes of the same id, or there is no trigger in either. -/
  trigger : g.trigger?.map (·.id) = g'.trigger?.map (·.id)
  nodes : ∀ n ∈ g.nodes, ∃ n' ∈ g'.nodes, n.WorksAs n'
  nodes' : ∀ n' ∈ g'.nodes, ∃ n ∈ g.nodes, n.WorksAs n'
  routes : ∀ node, g.routes node = g'.routes node

theorem routes_eq_nil {g : Graph} {node : String} (h : ∀ e ∈ g.edges, e.source ≠ node) :
    g.routes node = [] := by
  simpa [routes, outbound] using h

/-- It is enough to compare the routes out of the sources of edges. -/
theorem routes_eq_iff {g g' : Graph} :
    (∀ node, g.routes node = g'.routes node) ↔
      ∀ e ∈ g.edges ++ g'.edges, g.routes e.source = g'.routes e.source := by
  refine ⟨fun h e _ => h e.source, fun h node => ?_⟩
  by_cases hnode : ∃ e ∈ g.edges ++ g'.edges, e.source = node
  · obtain ⟨e, he, rfl⟩ := hnode
    exact h e he
  · -- no edge leaves such a node
    simp only [List.mem_append, not_exists, not_and] at hnode
    rw [routes_eq_nil fun e he => hnode e (.inl he), routes_eq_nil fun e he => hnode e (.inr he)]

instance (g g' : Graph) : Decidable (g.RoutesAs g') :=
  decidable_of_iff (g.trigger?.map (·.id) = g'.trigger?.map (·.id) ∧
      (∀ n ∈ g.nodes, ∃ n' ∈ g'.nodes, n.WorksAs n') ∧
      (∀ n' ∈ g'.nodes, ∃ n ∈ g.nodes, n.WorksAs n') ∧
      ∀ e ∈ g.edges ++ g'.edges, g.routes e.source = g'.routes e.source)
    ⟨fun ⟨htrigger, hn, hn', hroutes⟩ => ⟨htrigger, hn, hn', routes_eq_iff.mpr hroutes⟩,
      fun h => ⟨h.trigger, h.nodes, h.nodes', routes_eq_iff.mp h.routes⟩⟩

/-- Where a run goes from a node by a port, is read off the routes out of the node. -/
theorem nextEdge?_map_route (g : Graph) (node port : String) :
    (g.nextEdge? node port).map route
      = ((g.routes node).find? (·.1 == some port)).or ((g.routes node).find? (·.1.isNone)) := by
  simp only [nextEdge?, routes, List.find?_map, Option.map_or]
  rfl

variable {g g' : Graph}

theorem RoutesAs.nextEdge?_map_target (h : g.RoutesAs g') (node port : String) :
    (g.nextEdge? node port).map (·.target) = (g'.nextEdge? node port).map (·.target) := by
  have hroute : (g.nextEdge? node port).map route = (g'.nextEdge? node port).map route := by
    rw [nextEdge?_map_route, nextEdge?_map_route, h.routes]
  simpa [Function.comp_def, route] using congrArg (Option.map (·.2)) hroute

/-- Under one id there are nodes that are the same to a run. -/
theorem RoutesAs.node? (h : g.RoutesAs g') (hg' : g'.WellFormed) {n : Node} (hn : n ∈ g.nodes) :
    ∃ n', g'.node? n.id = some n' ∧ n.WorksAs n' := by
  obtain ⟨n', hn', hw⟩ := h.nodes n hn
  exact ⟨n', hg'.node?_eq_some_iff.mpr ⟨hn', hw.id.symm⟩, hw⟩

/-- Both graphs have triggers that are the same to a run, or neither has one. -/
theorem RoutesAs.trigger?_cases (h : g.RoutesAs g') (hg' : g'.WellFormed) :
    (g.trigger? = none ∧ g'.trigger? = none) ∨
      ∃ v v', g.trigger? = some v ∧ g'.trigger? = some v' ∧ v.WorksAs v' := by
  have htrigger := h.trigger
  cases hv : g.trigger? with
  | none =>
    rw [hv] at htrigger
    exact .inl ⟨rfl, Option.map_eq_none_iff.mp htrigger.symm⟩
  | some v =>
    rw [hv] at htrigger
    obtain ⟨v', hv', hid⟩ := Option.map_eq_some_iff.mp htrigger.symm
    -- the first trigger of the other graph is the one node there with this id
    obtain ⟨n', hn', hw⟩ := h.node? hg' (List.mem_of_find?_eq_some hv)
    have hfound : g'.node? v.id = some v' :=
      hg'.node?_eq_some_iff.mpr ⟨List.mem_of_find?_eq_some hv', hid⟩
    obtain rfl := Option.some.inj (hfound.symm.trans hn')
    exact .inr ⟨v, v', rfl, hv', hw⟩

end Graph

namespace Executor

variable {x : Executor} {g g' : Graph}

/-- **Where a walk goes from a node**: nowhere in both graphs, or to nodes that are the same to a
run. -/
theorem edge?_cases (h : g.RoutesAs g') (hg : g.WellFormed) (hg' : g'.WellFormed) {v v' : Node}
    (hv : v.id = v'.id) (o : Outcome) :
    (edge? g v o = none ∧ edge? g' v' o = none) ∨
      ∃ e e' u u', edge? g v o = some e ∧ edge? g' v' o = some e' ∧
        g.target? e = some u ∧ g'.target? e' = some u' ∧ u.WorksAs u' := by
  unfold edge?
  rw [← hv]
  cases o.port with
  | none => exact .inl ⟨rfl, rfl⟩
  | some port =>
    have htarget := h.nextEdge?_map_target v.id port
    simp only [Option.bind_some]
    -- the edge itself may be another one, but it leads to a node with the same id
    cases he : g.nextEdge? v.id port with
    | none =>
      rw [he] at htarget
      exact .inl ⟨rfl, Option.map_eq_none_iff.mp htarget.symm⟩
    | some e =>
      rw [he] at htarget
      obtain ⟨e', he', heq⟩ := Option.map_eq_some_iff.mp htarget.symm
      obtain ⟨u, hu, hetarget⟩ := hg.exists_target (Graph.nextEdge?_mem he)
      obtain ⟨u', hu', hw⟩ := h.node? hg' hu
      refine .inr ⟨e, e', u, u', rfl, he', hetarget, ?_, hw⟩
      rw [hg.target?_eq, hg.node?_eq_some_iff] at hetarget
      rw [hg'.target?_eq, heq, ← hu', hetarget.2]

/-- **A walk goes the same way in graphs that are the same to a run.** -/
theorem walk_eq_of_routesAs (hx : ∀ type, (x.handlers.get type).IgnoresPlace)
    (h : g.RoutesAs g') (hg : g.WellFormed) (hg' : g'.WellFormed) (runId flowId : String)
    (left : Nat) {v v' : Node} (hv : v.WorksAs v') (p : Progress) :
    x.walk g runId flowId left v p = x.walk g' runId flowId left v' p := by
  induction left generalizing v v' p with
  | zero => rw [walk_zero, walk_zero, hv.id]
  | succ left ih =>
    obtain ⟨place, rfl⟩ := hv.exists_eq
    have hreaction : x.reaction { v with position := place } p = x.reaction v p := hx v.type v place _
    -- handlers do not look at the place of a node, so both go on with the same outcome
    have hafter : afterNode x g' runId flowId left { v with position := place } p
        = afterNode x g runId flowId left v p := by
      funext res
      cases res with
      | error fault => simp only [afterNode, hreaction]
      | ok o =>
        simp only [afterNode, hreaction]
        rcases edge?_cases h hg hg' hv.id o with ⟨he, he'⟩ | ⟨e, e', u, u', he, he', hu, hu', hw⟩
        · simp only [he, he']
          rfl
        · simp only [he, he', hu, hu', ih hw]
          rfl
    rw [walk_succ, walk_succ, hreaction, hafter]

/-! ### Whole runs -/

/-- What a run leaves behind apart from what it makes of its flow. -/
def Finished.trace (fin : Finished) : Record × Context := (fin.record, fin.context)

variable {F G : Flow} {ctx : Context}

/-- What a run does once its walk is over depends on the flow by its id alone. -/
theorem afterWalk_trace (hid : F.id = G.id) (runId : String) (startedAt : Instant) (e : Ending) :
    Finished.trace <$> afterWalk F ctx runId startedAt e
      = Finished.trace <$> afterWalk G ctx runId startedAt e := by
  obtain ⟨id, _, _, _, _, _, _⟩ := F
  obtain ⟨id', _, _, _, _, _, _⟩ := G
  obtain rfl : id = id' := hid
  rfl

/-- **Runs of flows with one id, and with graphs that are the same to a run, are one operation** up to
what they make of their flows. -/
theorem run_trace (hx : ∀ type, (x.handlers.get type).IgnoresPlace) (hF : F.graph.WellFormed)
    (hG : G.graph.WellFormed) (hid : F.id = G.id) (h : F.graph.RoutesAs G.graph) (ctx : Context) :
    Finished.trace <$> x.run F ctx = Finished.trace <$> x.run G ctx := by
  rcases h.trigger?_cases hG with ⟨hv, hv'⟩ | ⟨v, v', hv, hv', hw⟩
  · rw [run_of_no_trigger hv, run_of_no_trigger hv']
    obtain ⟨id, _, _, _, _, _, _⟩ := F
    obtain ⟨id', _, _, _, _, _, _⟩ := G
    obtain rfl : id = id' := hid
    rfl
  · -- from the two triggers the two walks are one, and only the flow they are recorded for differs
    have hwalk : ∀ runId startedAt,
        Finished.trace <$> (x.walk F.graph runId G.id x.limit v ⟨ctx, []⟩).bind
            (afterWalk F ctx runId startedAt)
          = Finished.trace <$> (x.walk G.graph runId G.id x.limit v' ⟨ctx, []⟩).bind
            (afterWalk G ctx runId startedAt) := by
      intro runId startedAt
      show Interaction.bind (Interaction.bind _ _) _ = Interaction.bind (Interaction.bind _ _) _
      rw [Interaction.bind_assoc, Interaction.bind_assoc,
        walk_eq_of_routesAs hx h hF hG runId G.id x.limit hw]
      exact congrArg _ (funext fun e => afterWalk_trace hid runId startedAt e)
    rw [run_of_trigger hv, run_of_trigger hv', hid]
    refine congrArg (Interaction.ask _) (funext fun runId => ?_)
    refine congrArg (Interaction.ask _) (funext fun startedAt => ?_)
    refine congrArg (Interaction.ask _) (funext fun _ => ?_)
    exact congrArg (Interaction.ask _) (funext fun _ => hwalk runId startedAt)

/-- **A run sees only what its flow routes by.**  Two valid flows with one id, whose graphs are the
same to a run, are run by the built-in handlers as one operation: the same requests are made in the
same order, and the same record and the same context come of them, whoever answers.  In particular
the runs of both alone, cancelled at whatever time or not at all, have the same steps, output,
success, error and context and leave the same world. -/
theorem run_eq_of_routesAs (agents : Directory) (settings : Settings) (limit : Nat)
    (hF : F.validate = .ok ()) (hG : G.validate = .ok ()) (hid : F.id = G.id)
    (h : F.graph.RoutesAs G.graph) (ctx : Context) :
    let x := withLimit (.builtin agents settings) limit
    Finished.trace <$> x.run F ctx = Finished.trace <$> x.run G ctx ∧
      ∀ cancelAt w,
        let f := World.runAlone cancelAt (x.run F ctx) w
        let g := World.runAlone cancelAt (x.run G ctx) w
        f.1.Agrees g.1 ∧ g.1.record = f.1.record ∧ g.2 = f.2 := by
  intro x
  have hrun : Finished.trace <$> x.run F ctx = Finished.trace <$> x.run G ctx :=
    run_trace (Registry.ignoresPlace_builtin_get agents settings) (Flow.validate_eq_ok_iff.mp hF)
      (Flow.validate_eq_ok_iff.mp hG) hid h ctx
  refine ⟨hrun, fun cancelAt w => ?_⟩
  intro f g
  -- a trace is made from what comes of the run, so it asks for nothing more
  have hmap : ∀ o : Operation Finished, World.runAlone cancelAt (Finished.trace <$> o) w
      = ((World.runAlone cancelAt o w).1.trace, (World.runAlone cancelAt o w).2) := fun o =>
    World.runAlone_bind cancelAt o (fun fin => .done fin.trace) w
  have heq : (f.1.trace, f.2) = (g.1.trace, g.2) := by
    rw [← hmap, ← hmap, hrun]
  obtain ⟨⟨hrecord, hcontext⟩, hworld⟩ : (f.1.record = g.1.record ∧ f.1.context = g.1.context) ∧
      f.2 = g.2 := by
    simpa [Finished.trace] using heq
  exact ⟨⟨by rw [hrecord], by rw [hrecord], by rw [hrecord], by rw [hrecord], hcontext.symm⟩,
    hrecord.symm, hworld.symm⟩

/-- A trigger from which an edge without a port leads to a tag, and from there an edge to the end. -/
def drawn : Flow :=
  let start : Node := ⟨"start", "trigger", Json.empty, .origin⟩
  let label : Node := ⟨"label", "tag", Json.ofMembers [("tag", .str "seen")], .origin⟩
  let stop : Node := ⟨"stop", "end", Json.empty, .origin⟩
  .fresh "f" "Drawn" ""
    ⟨[start, label, stop],
      [⟨"a", "start", "label", none, none⟩, ⟨"b", "start", "stop", some "other", none⟩,
        ⟨"c", "label", "stop", some "next", none⟩]⟩ ⟨0, 0⟩

/-- The same flow as somebody else might have drawn it, with another name and another past. -/
def redrawn : Flow :=
  let start : Node := ⟨"start", "trigger", Json.empty, .origin⟩
  let label : Node :=
    ⟨"label", "tag", Json.ofMembers [("tag", .str "seen")], ⟨Binary.ofInt 7, Binary.zero⟩⟩
  let stop : Node := ⟨"stop", "end", Json.empty, ⟨Binary.zero, Binary.ofInt 9⟩⟩
  ⟨"f", "Redrawn", "in another order",
    ⟨[stop, label, start],
      [⟨"z", "label", "stop", some "next", some "in"⟩, ⟨"x", "start", "label", none, some "left"⟩,
        ⟨"y", "start", "stop", some "other", none⟩]⟩, .error, ⟨5, 0⟩, some ⟨6, 0⟩⟩

/-- Both are run along the same path. -/
theorem run_eq_of_routesAs_redrawn :
    let x := withLimit (.builtin .empty .standard) 10
    let ctx : Context := ⟨.str "payload", []⟩
    let w := World.start (.memory .empty) ⟨0, 0⟩
    (World.run (x.run drawn ctx) w).1.record.path = ["start", "label", "stop"] ∧
      (World.run (x.run redrawn ctx) w).1.record.path = ["start", "label", "stop"] := by
  intro x ctx w
  have hdrawn : (World.run (x.run drawn ctx) w).1.record.path = ["start", "label", "stop"] := by
    decide +kernel
  obtain ⟨-, hruns⟩ := run_eq_of_routesAs .empty .standard 10 (by decide : drawn.validate = .ok ())
    (by decide : redrawn.validate = .ok ()) rfl (by decide) ctx
  refine ⟨hdrawn, ?_⟩
  have hrecord := (hruns none w).2.1
  rw [← hdrawn]
  exact congrArg Record.path hrecord

end Executor

end Flowgraph
