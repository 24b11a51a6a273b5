import Flowgraph.Proofs.Flow.Update
import Flowgraph.Proofs.Graph.RoundTrip

/-!
# Graphs that are sent back as they were loaded

Whoever loads a flow and sends its nodes and edges back in an update (`Flow.resubmission`) sends what
has been read from the store, so nothing should change.  The update makes the same flow of it if and
only if the graph is settled (`Update.apply_resubmission_iff`), and then it changes nothing if what is
stored is what has been read (`Flows.resubmit_alone`).

A graph that has been submitted is settled.  A flow that is imported is read by another reader and may
have a graph that is not, and an update that gives one half, or none, leaves the other as it is: what it
has stored may be refused when it is sent back (`System.resubmit_unchanged_typeless`).  So every flow of
an id has a settled graph as long as that is so for those that have been imported under it
(`System.Reaches.holds`, `System.Reaches.inserted`).

In rows what is stored is what has been read if each value is read from its text.  Numbers are not:
one may be read as its neighbour, and what is sent back is then yet another graph
(`System.resubmit_unchanged_drifting`).
-/

namespace Flowgraph

/-- **An update with the nodes and edges of a flow** as they are written. -/
def Flow.resubmission (f : Flow) : Update :=
  ⟨none, none, some (f.graph.nodes.map Node.toJson), some (f.graph.edges.map Edge.toJson)⟩

namespace Update

variable {u : Update} {f f' : Flow}

/-- **What an update makes is settled**, if that is so for the halves that it does not give. -/
theorem Makes.settled (h : u.Makes f f') (hnodes : u.nodes = none → ∀ n ∈ f.graph.nodes, n.Settled)
    (hedges : u.edges = none → ∀ e ∈ f.graph.edges, e.Settled) : f'.graph.Settled :=
  ⟨h.nodes.forall_mem hnodes fun _ _ => Node.settled_of_ofSpec,
    h.edges.forall_mem hedges fun _ _ => Edge.settled_of_ofSpec⟩

/-- **A flow with a well-formed graph is made of itself** by its own nodes and edges, if the graph is
settled. -/
theorem apply_resubmission_iff (hg : f.graph.WellFormed) :
    f.resubmission.apply f = .ok f ↔ f.graph.Settled := by
  rw [apply_eq_ok_iff]
  constructor
  · exact fun h => h.settled nofun nofun
  · intro h
    have hnodes := mapM_map_eq_ok_self_iff.mpr fun n hn =>
      Node.ofSpec_toJson_iff.mpr (h.nodes n hn)
    have hedges := mapM_map_eq_ok_self_iff.mpr fun e he =>
      Edge.ofSpec_toJson_iff.mpr (h.edges e he)
    exact ⟨rfl, rfl, .given (mapM_eq_ok_iff.mp hnodes), .given (mapM_eq_ok_iff.mp hedges),
      fun _ => Graph.validate_eq_ok_iff.mpr hg, rfl, rfl, rfl, rfl⟩

end Update

/-- **To send back what has been loaded changes nothing**, if the store holds it as it has been loaded
and the graph is settled. -/
theorem Flows.resubmit_alone {w : World} {id : String} {flow : Flow} {G : Graph → Prop}
    (hw : w.store.Holds id G) (hsound : w.store.Sound) (hget : w.store.get id = .ok (some flow))
    (h : flow.graph.Settled) :
    World.run (Flows.update id flow.resubmission).run w = (.ok flow, w) := by
  have happly := (Update.apply_resubmission_iff (hsound.wellFormed_of_get hget)).mpr h
  rw [Flows.update_of_ok hget happly (hw.update_self hget), hget]
  rfl

/-! ### What calls store -/

/-- What is loaded has a graph of some kind if it is the flow of one id. -/
def Request.Loads (id : String) (G : Graph → Prop) : (q : Request) → q.Answer → Prop
  | .get _, found => ∀ flow, found = .ok (some flow) → flow.id = id → G flow.graph
  | _, _ => True

/-- **What a request of a call may store**: a new flow that has been submitted or is imported, and in
the place of the flow of one id a graph of some kind. -/
structure Request.Stores (id : String) (G : Graph → Prop) (call : Call) (q : Request) : Prop where
  new : ∀ f, q = .insert f → (∃ nodes edges, Graph.ofSpecs nodes edges = .ok f.graph) ∨
    ∃ f', call = .importFlow f' ∧ f = f'.neverRun
  next : ∀ f, q = .update f → f.id = id → G f.graph

/-- **A kind of graphs that updates keep to**, whatever they give. -/
def Update.Keeps (G : Graph → Prop) : Prop :=
  ∀ {u : Update} {f f' : Flow}, u.Makes f f' → G f.graph → G f'.graph

/-- A settled graph stays settled, whatever halves of it are replaced. -/
theorem Update.keeps_settled : Keeps Graph.Settled :=
  fun h hf => h.settled (fun _ => hf.nodes) fun _ => hf.edges

section

variable {id : String} {G : Graph → Prop}

/-- **Who loads graphs of some kind by an id**, puts none but such in their place, if updates keep to
it. -/
theorem Call.operation_stores (hG : Update.Keeps G) (call : Call) :
    call.operation.Meets (Request.Loads id G) (Request.Stores id G call) fun _ => True := by
  refine call.operation_meets_of fun q hq => ?_
  cases hq with
  | created hg =>
    refine ⟨?_, nofun⟩
    rintro _ ⟨⟩
    exact .inl ⟨_, _, mapError_eq_ok_iff.mp hg⟩
  | imported =>
    refine ⟨?_, nofun⟩
    rintro _ ⟨⟩
    exact .inr ⟨_, rfl, rfl⟩
  | updated hload happly =>
    refine ⟨nofun, ?_⟩
    rintro _ ⟨⟩ hid
    -- the flow that is stored has the id of the one that has been loaded
    have hmakes := Update.apply_eq_ok_iff.mp happly
    exact hG hmakes (hload _ rfl (hmakes.id.symm.trans hid))
  -- a run asks for no flow to be stored
  | ran hq =>
    constructor <;>
    · rintro f rfl
      exact hq.elim
  | _ => exact ⟨nofun, nofun⟩

namespace Answers

variable {rules : Rules} {isCancelled : Bool} {w w' : World} {q : Request} {a : q.Answer}

/-- What is loaded from a store has a graph of the kind that it holds. -/
theorem loads (h : Answers rules isCancelled w q a w') (hw : w.store.Holds id G) :
    q.Loads id G a := by
  cases q with
  | get other =>
    obtain ⟨rfl, rfl⟩ := h.get_inv
    rintro flow hget rfl
    obtain ⟨-, -, -, -, rfl, -⟩ := Store.exists_slot_of_get hget
    exact hw.of_get hget
  | _ => trivial

/-- Whatever answer a request gets, a store goes on to hold a graph of some kind, and stays of its own
kind. -/
theorem holds (h : Answers rules isCancelled w q a w') (hw : w.store.Holds id G)
    (hq : ∀ f, f.id = id → q = .insert f ∨ q = .update f → G f.graph)
    (hwritable : w.store.isRows = true →
      ∀ f, f.id = id → q = .insert f ∨ q = .update f → f.graph.Writable) :
    w'.store.Holds id G ∧ w'.store.isRows = w.store.isRows := by
  cases h with
  | answered => exact ⟨World.answer_holds hw _ hq hwritable, World.answer_isRows ..⟩
  | elapsed | refused => exact ⟨hw, rfl⟩

end Answers

end

/-! ### In every store that is reached -/

namespace System

variable {rules : Rules} {w : World} {s : System} {id : String} {G : Graph → Prop}

/-- **A flow that is new** has been submitted or imported. -/
theorem Reaches.inserted (hs : Reaches rules (.idle w) s) {f : Flow} (hf : .insert f ∈ s.asked) :
    (∃ nodes edges, Graph.ofSpecs nodes edges = .ok f.graph) ∨
      ∃ t ∈ s.tasks, ∃ f', t.call = .importFlow f' ∧ f = f'.neverRun := by
  obtain ⟨t, ht, hq⟩ := List.mem_flatMap.mp hf
  obtain ⟨e, he, hinsert⟩ := List.mem_map.mp hq
  -- whatever has been loaded, it is nothing to new flows
  have hstores : t.call.operation.Meets (Request.Loads f.id fun _ => True)
      (Request.Stores f.id (fun _ => True) t.call) fun _ => True :=
    t.call.operation_stores fun _ _ => trivial
  -- with no condition on what is loaded, every answer is as expected
  have hasked := hstores.requests (hs.sound ht).after fun e _ => by
    obtain ⟨q, a⟩ := e
    cases q with
    | get _ => exact fun _ _ _ => trivial
    | _ => trivial
  rcases (hasked e he).new f hinsert with hsubmitted | ⟨f', hcall, rfl⟩
  · exact .inl hsubmitted
  · exact .inr ⟨t, ht, f', hcall, rfl⟩

/-- **Every store that has been reached holds a graph of some kind under an id**, if updates keep to it
and such are put in, and what is put into rows can be read there. -/
theorem Reaches.holds (hw : w.store = .memory .empty ∨ w.store = .rows .empty)
    (hs : Reaches .closed (.idle w) s) (hG : Update.Keeps G)
    (hinserts : ∀ f, f.id = id → .insert f ∈ s.asked → G f.graph)
    (hwritable : w.store = .rows .empty → ∀ f, f.id = id →
      .insert f ∈ s.asked ∨ .update f ∈ s.asked → f.graph.Writable) :
    s.world.store.Holds id G := by
  obtain ⟨horder, hnone, hrows⟩ := Store.orderly_of_empty hw
  have hcall (call : Call) : call.operation.Meets (Request.Loads id G)
      (fun q => ∀ f, q = .update f → f.id = id → G f.graph) fun _ => True :=
    (call.operation_stores hG).mono (fun _ _ h => h) (fun _ h => h.next) fun _ h => h
  -- the kind of the store stays, so that only in rows what is stored has to be legible
  obtain ⟨⟨hholds, -⟩, -⟩ := hs.of_asked
    (P := fun v => v.store.Holds id G ∧ v.store.isRows = w.store.isRows)
    (fun q => ∀ f, f.id = id → (q = .insert f → G f.graph) ∧
      (w.store.isRows = true → q = .insert f ∨ q = .update f → f.graph.Writable)) hcall
    (fun v v' hv (hsame : v'.store = v.store) => hsame ▸ hv)
    (fun ha ⟨hholds, hkind⟩ hnext hq => by
      obtain ⟨hholds', hkind'⟩ := ha.holds hholds
        (fun f hid hf => hf.elim (hq f hid).1 fun hf => hnext f hf hid)
        fun h f hid => (hq f hid).2 (hkind ▸ h)
      exact ⟨⟨hholds', hkind'.trans hkind⟩, ha.loads hholds⟩)
    ⟨⟨horder, hnone ▸ nofun⟩, rfl⟩ fun q hq f hid => by
      refine ⟨?_, fun h hf => hwritable (hrows h) f hid ?_⟩
      · rintro rfl
        exact hinserts f hid hq
      · rcases hf with rfl | rfl
        · exact .inl hq
        · exact .inr hq
  exact hholds

/-- **What has been submitted comes back as it is, and changes nothing when it is sent back.**  A graph
that has been read from specifications is read from its own data again, both as specifications and as
stored data.

Begin with an empty store of either kind, and let any calls come in at any time, each of their requests
be answered at one moment and refused at will.  Then load a flow, and send its nodes and edges back in
an update with nothing else going on.  The update makes the same flow of it if and only if its graph is
settled; then it succeeds and leaves all as it was, as long as what has been put into rows under this id
can be read there.  And the graph is settled if an update has given both halves of it, or if that is so
for all that have been imported under this id. -/
theorem resubmit_unchanged (hw : w.store = .memory .empty ∨ w.store = .rows .empty)
    (hs : Reaches .closed (.idle w) s) (id : String)
    (hwritable : w.store = .rows .empty → ∀ f, f.id = id →
      .insert f ∈ s.asked ∨ .update f ∈ s.asked → f.graph.Writable) :
    (∀ nodes edges g, (∀ j ∈ nodes, j.Sorted) → Graph.ofSpecs nodes edges = .ok g →
      Graph.ofSpecs (g.nodes.map Node.toJson) (g.edges.map Edge.toJson) = .ok g ∧
        Graph.ofData (g.nodes.map Node.toJson) (g.edges.map Edge.toJson) = .ok g) ∧
      ∀ flow, s.world.store.get id = .ok (some flow) →
        (flow.resubmission.apply flow = .ok flow ↔ flow.graph.Settled) ∧
        (flow.graph.Settled →
          World.run (Flows.update id flow.resubmission).run s.world = (.ok flow, s.world)) ∧
        (∀ u old, Update.Makes u old flow → u.nodes.isSome → u.edges.isSome →
          flow.graph.Settled) ∧
        ((∀ t ∈ s.tasks, ∀ f, t.call = .importFlow f → f.id = id → f.graph.Settled) →
          flow.graph.Settled) := by
  obtain ⟨hsound, -⟩ := Task.Fed.preserves.reached (Store.sound_of_empty hw) hs
  refine ⟨fun _ _ _ => Graph.read_of_ofSpecs, fun flow hget => ⟨?_, ?_, ?_, fun himports => ?_⟩⟩
  · exact Update.apply_resubmission_iff (hsound.wellFormed_of_get hget)
  · have hholds : s.world.store.Holds id fun _ => True :=
      hs.holds hw (fun _ _ => trivial) (fun _ _ _ => trivial) hwritable
    exact Flows.resubmit_alone hholds hsound hget
  · intro u old hmakes hnodes hedges
    exact hmakes.settled (fun h => nomatch h ▸ hnodes) fun h => nomatch h ▸ hedges
  · have hholds : s.world.store.Holds id Graph.Settled :=
      hs.holds hw Update.keeps_settled (fun f hid hf => ?_) hwritable
    · exact hholds.of_get hget
    -- whatever has come in has been submitted or imported
    rcases hs.inserted hf with ⟨nodes, edges, hgraph⟩ | ⟨t, ht, f', hcall, rfl⟩
    · exact Graph.settled_of_ofSpecs hgraph
    · exact himports t ht f' hcall hid

/-- A flow whose only node has no data. -/
def dataless : Flow :=
  .fresh "dataless" "Dataless" "" ⟨[⟨"start", "trigger", .null, .origin⟩], []⟩ ⟨0, 0⟩

/-- A node that leads to itself, as it may be submitted. -/
def loopDraft : Draft :=
  ⟨"Loop", "", [Json.ofMembers [("id", .str "start"), ("type", .str "trigger")]],
    [Json.ofMembers [("id", .str "back"), ("source", .str "start"), ("target", .str "start"),
      ("sourceHandle", .str "")]]⟩

/-- The flow that is made of the draft. -/
def looping : Flow :=
  .fresh (World.flowId ⟨0, 0⟩ 0) "Loop" "" ⟨[⟨"start", "trigger", Json.empty, .origin⟩],
    [⟨"back", "start", "start", none, none⟩]⟩ ⟨0, 1000⟩

/-- One flow is imported, and meanwhile the other one is created. -/
def loopCreated : List Move :=
  [.call (.create loopDraft), .call (.importFlow dataless), .go 0, .go 1, .go 0, .go 0]

/-- What has been created comes back from rows and changes nothing when it is sent back, since it is
settled; the other flow beside it is not. -/
theorem resubmit_unchanged_looping :
    ∃ s, (idle (.start (.rows .empty) ⟨0, 0⟩)).play? loopCreated = some s ∧
      World.run (Flows.update looping.id looping.resubmission).run s.world
        = (.ok looping, s.world) ∧
      dataless.resubmission.apply dataless ≠ .ok dataless := by
  have hplayed : ((idle (.start (.rows .empty) ⟨0, 0⟩)).play? loopCreated).map (fun s =>
      (s.world.store.slot looping.id, s.world.store.slot "dataless", s.asked, s.tasks.map (·.call)))
        = some (some (.row (.ofFlow looping)), some (.row (.ofFlow dataless)),
          [.freshFlowId, .clock, .insert looping, .insert dataless],
          [.create loopDraft, .importFlow dataless]) := by rfl
  obtain ⟨s, hs, hfound⟩ := Option.map_eq_some_iff.mp hplayed
  obtain ⟨hslot, hrest⟩ := Prod.mk.inj hfound
  obtain ⟨hslot', hrest⟩ := Prod.mk.inj hrest
  obtain ⟨hasked, hcalls⟩ := Prod.mk.inj hrest
  have hreached : Reaches .closed _ s := reaches_of_play? hs
  have hlooping : (Request.insert looping).Writable := by decide +kernel
  have hdataless : (Request.insert dataless).Writable := by decide +kernel
  have hget : s.world.store.get looping.id = .ok (some looping) := Store.get_eq_some_iff.mpr
    ⟨_, hslot, Flow.kept_of_writable (Graph.validate_eq_ok_iff.mp rfl) hlooping⟩
  have hget' : s.world.store.get "dataless" = .ok (some dataless) := Store.get_eq_some_iff.mpr
    ⟨_, hslot', Flow.kept_of_writable (Graph.validate_eq_ok_iff.mp rfl) hdataless⟩
  -- each of the two flows that have been stored can be read
  have hwritable : ∀ f, .insert f ∈ s.asked ∨ .update f ∈ s.asked → f.graph.Writable := by
    intro f hf
    simp only [hasked, List.mem_cons, List.not_mem_nil, reduceCtorEq, Request.insert.injEq,
      false_or, or_false] at hf
    rcases hf with rfl | rfl
    · exact hlooping.1
    · exact hdataless.1
  obtain ⟨-, hresubmit⟩ := resubmit_unchanged (.inr rfl) hreached looping.id
    fun _ f _ => hwritable f
  obtain ⟨-, hunchanged, -, hsettled⟩ := hresubmit looping hget
  obtain ⟨-, hresubmit'⟩ := resubmit_unchanged (.inr rfl) hreached "dataless"
    fun _ f _ => hwritable f
  obtain ⟨hiff, -⟩ := hresubmit' dataless hget'
  refine ⟨s, hs, hunchanged (hsettled fun t ht f hcall hid => ?_), fun h => ?_⟩
  · -- the only flow that has been imported is the other one
    have hmem : t.call ∈ s.tasks.map (·.call) := List.mem_map_of_mem ht
    rw [hcalls, hcall] at hmem
    obtain rfl : f = dataless := by simpa using hmem
    exact absurd hid (by decide)
  · exact ((hiff.mp h).nodes _ (List.mem_singleton_self _)).data rfl

/-- What is loaded by an id, and what is replied when it is sent back. -/
def resent (id : String) (s : System) : Option (Flow × Except Fault Flow) :=
  match s.world.store.get id with
  | .ok (some flow) =>
    some (flow, (World.run (Flows.update id flow.resubmission).run s.world).1)
  | _ => none

/-- A flow whose only node has a blank type, as it may be imported. -/
def typeless : Flow :=
  .fresh "typeless" "Typeless" "" ⟨[⟨"start", "", Json.empty, .origin⟩], []⟩ ⟨0, 0⟩

/-- It is imported, and an update gives it another name and stores it again. -/
def typelessRenamed : List Move :=
  [.call (.importFlow typeless), .go 0, .call (.update "typeless" ⟨some "Renamed", none, none, none⟩),
    .go 1, .go 1, .go 1]

/-- What a request puts in the place of a flow. -/
def updated? : Request → Option Flow
  | .update f => some f
  | _ => none

/-- **A flow that an update has stored may be refused when it is sent back as it was loaded**: an update
that gives a name only stores the graph as it was imported, a blank type and all. -/
theorem resubmit_unchanged_typeless :
    ¬ ∀ s id flow, Reaches .closed (.idle (.start (.rows .empty) ⟨0, 0⟩)) s →
      .update flow ∈ s.asked → s.world.store.get id = .ok (some flow) →
      World.run (Flows.update id flow.resubmission).run s.world = (.ok flow, s.world) := by
  intro h
  let renamed : Flow := { typeless with name := "Renamed" }
  have hplayed : ((idle (.start (.rows .empty) ⟨0, 0⟩)).play? typelessRenamed).map (fun s =>
      (s.asked.filterMap updated?,
        (resent "typeless" s).map fun (flow, reply) => (flow, reply.toOption)))
      = some ([renamed], some (renamed, none)) := by decide +kernel
  obtain ⟨s, hs, hfound⟩ := Option.map_eq_some_iff.mp hplayed
  obtain ⟨hasked, hfound⟩ := Prod.mk.inj hfound
  obtain ⟨⟨flow, reply⟩, hresent, hflow⟩ := Option.map_eq_some_iff.mp hfound
  obtain ⟨rfl, hrefused⟩ := Prod.mk.inj hflow
  have hstored : .update renamed ∈ s.asked := by
    have hmem : renamed ∈ s.asked.filterMap updated? := hasked ▸ List.mem_singleton_self _
    obtain ⟨q, hq, hupdated⟩ := List.mem_filterMap.mp hmem
    cases q with
    | update f => exact Option.some.inj hupdated ▸ hq
    | _ => exact nomatch hupdated
  unfold resent at hresent
  split at hresent
  · next loaded hget =>
    obtain ⟨rfl, rfl⟩ := Prod.mk.inj (Option.some.inj hresent)
    -- the reply would be the flow as it was loaded
    have hsame := h s "typeless" renamed (reaches_of_play? hs) hstored hget
    rw [hsame] at hrefused
    exact nomatch hrefused
  · exact nomatch hresent

/-- A node at a place whose number is not read from rows as it has been written. -/
def driftDraft : Draft :=
  let x : Double := ⟨false, 3677779252200955 * Nat.pow 2 663⟩
  ⟨"Drift", "", [Json.ofMembers [("id", .str "start"), ("type", .str "trigger"),
    ("position", (Position.mk x .zero).toJson)]], []⟩

/-- The only call creates it. -/
def driftCreated : List Move := [.call (.create driftDraft), .go 0, .go 0, .go 0]

/-- How far to the right the nodes of a flow are. -/
def abscissas (flow : Flow) : List Double := flow.graph.nodes.map (·.position.x)

/-- **In rows a graph that is sent back as it was loaded may be changed**, though it has been submitted:
the number is read as its neighbour when the flow is loaded, and once more when it has been sent
back. -/
theorem resubmit_unchanged_drifting :
    ¬ ∀ s id flow, Reaches .closed (.idle (.start (.rows .empty) ⟨0, 0⟩)) s →
      (∀ t ∈ s.tasks, ∀ f, t.call ≠ .importFlow f) →
      s.world.store.get id = .ok (some flow) →
      World.run (Flows.update id flow.resubmission).run s.world = (.ok flow, s.world) := by
  intro h
  have hplayed : ((idle (.start (.rows .empty) ⟨0, 0⟩)).play? driftCreated).map (fun s =>
      (resent looping.id s).map fun (flow, reply) =>
        (abscissas flow, reply.toOption.map abscissas))
      = some (some ([⟨false, 7355558504401911 * Nat.pow 2 662⟩],
          some [⟨false, 919444813050239 * Nat.pow 2 665⟩])) := by decide +kernel
  have hcalls : ((idle (.start (.rows .empty) ⟨0, 0⟩)).play? driftCreated).map (fun s =>
      s.tasks.map (·.call)) = some [.create driftDraft] := by rfl
  obtain ⟨s, hs, hfound⟩ := Option.map_eq_some_iff.mp hplayed
  obtain ⟨⟨flow, reply⟩, hresent, hplaces⟩ := Option.map_eq_some_iff.mp hfound
  obtain ⟨hloaded, hreplied⟩ := Prod.mk.inj hplaces
  rw [hs, Option.map_some, Option.some.injEq] at hcalls
  unfold resent at hresent
  split at hresent
  · next loaded hget =>
    obtain ⟨rfl, rfl⟩ := Prod.mk.inj (Option.some.inj hresent)
    -- the reply would be the flow as it was loaded
    have hsame := h s looping.id loaded (reaches_of_play? hs) (fun t ht f hcall => ?_) hget
    · rw [hsame] at hreplied
      have hplace := hloaded.symm.trans (Option.some.inj hreplied)
      exact absurd hplace (by decide +kernel)
    · have hmem : t.call ∈ s.tasks.map (·.call) := List.mem_map_of_mem ht
      rw [hcalls, hcall] at hmem
      exact nomatch List.mem_singleton.mp hmem
  · exact nomatch hresent

end System

end Flowgraph
