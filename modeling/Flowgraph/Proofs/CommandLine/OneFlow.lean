import Flowgraph.Proofs.CommandLine.FlowFile
import Flowgraph.Proofs.CommandLine.Reopened
import Flowgraph.Proofs.Store.Lives

/-!
# Stores with one flow

The flow of a file is stored in a store that has no flows (`Host.operates_store`).  It is the only one
there afterwards, and so what is listed, and what is run under its id (`Host.loads_of_row`).
-/

namespace Flowgraph.CommandLine

/-- **The flow that a file is stored as** in a world: under the id of the file, or else a new one. -/
def FlowFile.flowIn (f : FlowFile) (g : Graph) (w : World) : Flow :=
  match f.id with
  | some id => .fresh id f.draft.name f.draft.description g w.clock
  | none => .fresh (World.flowId w.clock w.made) f.draft.name f.draft.description g
      (w.clock.addNanos 1000)

/-- The flow of a file is made of what is in the file, at an instant that the clock has shown. -/
theorem FlowFile.flowIn_spec (f : FlowFile) (g : Graph) (w : World) :
    (∀ id ∈ f.id, (f.flowIn g w).id = id) ∧
      (f.id = none → (f.flowIn g w).id = World.flowId w.clock w.made) ∧
      ∃ id t, f.flowIn g w = .fresh id f.draft.name f.draft.description g t ∧
        (t = w.clock ∨ t = w.clock.addNanos 1000) := by
  unfold FlowFile.flowIn
  cases f.id with
  | some id => exact ⟨fun _ hid => Option.some.inj hid, nofun, id, _, rfl, .inl rfl⟩
  | none => exact ⟨nofun, fun _ => rfl, _, _, rfl, .inr rfl⟩

/-- **A host has a flow, and no other**: it is what is listed, and it runs when its id is given. -/
structure Host.Loads (h : Host) (x : Executor) (flow : Flow) : Prop where
  listed : (h.operates Flows.list.run).1 = .ok [flow]
  run : ∀ ctx, ∃ mid : Host,
    (h.operates (Flows.execute x flow.id ctx).run).1 = .ok (mid.operates (x.run flow ctx)).1

namespace Host

variable {h h₁ : Host} {w w' : World} {rows rows' : RowStore} {runs : Option (List RunRow)}

/-! ### Storing -/

/-- A request in a world of the host leaves a world of the host. -/
theorem operate_withWorld (hchange : h.opened.readOnly = false) {q : Flowgraph.Request}
    (hq : ∀ n, q ≠ .wait n) (hw : w.store = .rows rows)
    (hw' : (w.answer false q).2.store = .rows rows') :
    (h.withWorld w).operate q = ((w.answer false q).1, h.withWorld (w.answer false q).2) := by
  have hstill : (h.withWorld w).opened.readOnly = false := by rwa [withWorld_opened]
  rw [operate_eq hstill hq, withWorld_world, withWorld_withWorld hw hw']

/-- **A new flow is stored in an empty store.** -/
theorem operates_storing (hchange : h.opened.readOnly = false)
    (hw : w.store = .rows ⟨some [], runs⟩) (name description : String) (g : Graph) (id : String) :
    ∃ w', (h.withWorld w).operates (FlowFile.storing name description g id)
        = (.ok (.fresh id name description g w.clock), h.withWorld w') ∧
      w'.store = .rows ⟨some [.ofFlow (.fresh id name description g w.clock)], runs⟩ := by
  obtain ⟨store, time, clock, made, unread⟩ := w
  obtain rfl : store = _ := hw
  unfold FlowFile.storing
  -- the clock is read, and then the row is put into the table
  rw [operates_ask, operate_withWorld (q := .clock) hchange (fun _ => nofun) rfl rfl]
  dsimp only [World.answer, World.tick]
  rw [operates_ask, operate_withWorld (q := .insert _) hchange (fun _ => nofun) rfl rfl]
  exact ⟨_, rfl, rfl⟩

/-- **The flow of a file is stored in an empty store**, if it has a well-formed graph. -/
theorem operates_store (hchange : h.opened.readOnly = false) (hw : w.store = .rows ⟨some [], runs⟩)
    {f : FlowFile} {g : Graph} (hg : f.draft.graph = .ok g) (hwell : g.WellFormed) :
    ∃ w', (h.withWorld w).operates f.store.run = (.ok (f.flowIn g w), h.withWorld w') ∧
      w'.store = .rows ⟨some [.ofFlow (f.flowIn g w)], runs⟩ := by
  rw [FlowFile.store_run_of_ok hg hwell]
  unfold FlowFile.flowIn
  cases f.id with
  | some id => exact operates_storing hchange hw ..
  | none =>
    obtain ⟨store, time, clock, made, unread⟩ := w
    obtain rfl : store = _ := hw
    dsimp only
    -- an id is made before, and what follows depends on nothing else of the world
    rw [operates_ask, operate_withWorld (q := .freshFlowId) hchange (fun _ => nofun) rfl rfl]
    exact operates_storing hchange rfl ..

/-! ### Loading -/

/-- Once a flow has been loaded, its run decides what comes of the execution. -/
theorem operates_launch (h : Host) (x : Executor) (id : String) (flow : Flow) (ctx : Context) :
    (h.operates (Flows.launch x id flow ctx).run).1 = .ok (h.operates (x.run flow ctx)).1 := by
  rw [Flows.launch_run, operates_bind]
  generalize h.operates (x.run flow ctx) = found
  split <;> rfl

/-- **A flow that is read from its row is run.** -/
theorem operates_execute (hchange : h.opened.readOnly = false) (hw : w.store = .rows rows)
    {flowRows : List FlowRow} (hflows : rows.flows = some flowRows) {id : String} {flow : Flow}
    (hget : rows.get id = .ok (some flow)) (x : Executor) (ctx : Context) :
    ∃ mid : Host, ((h.withWorld w).operates (Flows.execute x id ctx).run).1
      = .ok (mid.operates (x.run flow ctx)).1 := by
  have hload : (h.withWorld w).operate (.get id) = (.ok (some flow), h.withWorld w) := by
    rw [operate_withWorld (q := .get id) hchange (fun _ => nofun) hw hw]
    show ((w.store.get id, _) : _ × Host) = _
    rw [hw]
    exact congrArg (·, h.withWorld w) hget
  rw [Flows.execute_run, operates_ask, hload]
  dsimp only
  cases htrigger : flow.trigger? with
  | none =>
    -- a flow without a trigger is run as it has been loaded
    rw [Flows.resume_of_no_trigger htrigger]
    exact ⟨_, operates_launch ..⟩
  | some t =>
    -- the flow is marked as running before
    obtain ⟨marked, hmarked, -⟩ := RowStore.exists_setLife hflows id .running flow.lastRun
    rw [← hw] at hmarked
    have hmark : (h.withWorld w).operate (.setLife id .running flow.lastRun)
        = (.ok (), h.withWorld { w with store := .rows marked }) := by
      have hworld : w.answer false (.setLife id .running flow.lastRun)
          = (.ok (), { w with store := .rows marked }) := by
        show w.withStore (w.store.setLife id .running flow.lastRun) = _
        rw [hmarked]
        rfl
      have hstore : (w.answer false (.setLife id .running flow.lastRun)).2.store = .rows marked := by
        rw [hworld]
      rw [operate_withWorld (q := .setLife id .running flow.lastRun) hchange (fun _ => nofun) hw
        hstore, hworld]
    rw [Flows.resume_of_trigger (by rw [htrigger]; rfl), operates_ask, hmark]
    exact ⟨_, operates_launch ..⟩

/-- **The flow of the only row is loaded**, and no other. -/
theorem loads_of_row (hchange : h.opened.readOnly = false) {row : FlowRow}
    (hw : w.store = .rows ⟨some [row], runs⟩) {flow : Flow} (hread : row.toFlow = .ok flow)
    (x : Executor) : (h.withWorld w).Loads x flow where
  listed := by
    show ((h.withWorld w).operate .list).1 = _
    rw [operate_withWorld (q := .list) hchange (fun _ => nofun) hw hw]
    show w.store.list = _
    rw [hw]
    show [row].mapM FlowRow.toFlow = _
    rw [List.mapM_cons, hread]
    rfl
  run ctx := by
    -- the row has the id of the flow that is read from it, so this is the row that is found
    have hid : row.id = flow.id := (FlowRow.toFlow_eq_ok_iff.mp hread).1.1.symm
    have hget : RowStore.get ⟨some [row], runs⟩ flow.id = .ok (some flow) := by
      show ([row].find? (·.id == flow.id)).mapM FlowRow.toFlow = _
      rw [List.find?_cons_of_pos (by simp [hid])]
      show row.toFlow >>= _ = _
      rw [hread]
      rfl
    exact operates_execute hchange hw rfl hget x ctx

end Host

end Flowgraph.CommandLine
