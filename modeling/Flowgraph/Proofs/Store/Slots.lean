import Flowgraph.Proofs.Store.Slot

/-!
# All that stands in a store

What stands in a store stands in an order (`Store.slots`), no two for one flow, and what is seen of the
store is read from there: a flow that is loaded is read from the slot of its id, and the list from
all slots (`Store.HasTables.get_eq`, `Store.HasTables.list_eq`).  A change of the one slot of an id is
therefore seen as a change of the one flow (`Store.Orderly.replaces_of_slots`).

To store a life is such a change, and so is an update (`Store.Orderly.update_redefines`).  The update
puts in the name, the description and the graph of the flow that it is given, and the status and the
last run stay, in either store.  The instant of creation stays in a store of rows; in memory it comes
with the definition.
-/

namespace Flowgraph

namespace Slot

/-- The id of the flow that stands there. -/
def id : Slot → String
  | flow f => f.id
  | row r => r.id

@[simp] theorem id_withLife (x : Slot) (status : Status) (lastRun : Option Instant) :
    (x.withLife status lastRun).id = x.id := by
  cases x <;> rfl

/-- A definition is that of a flow of the same id. -/
theorem id_redefine {x : Slot} {f : Flow} (hx : x.id = f.id) : (x.redefine f).id = f.id := by
  cases x with
  | flow old => rfl
  | row r => exact hx

theorem id_of_read {x : Slot} {f : Flow} (h : x.read = .ok f) : f.id = x.id := by
  cases x with
  | flow old =>
    obtain rfl := Except.ok.inj h
    rfl
  | row r => exact (Life.tells_of_toFlow h).id.symm

end Slot

/-- The row with another definition is read as that, with the id, the instant of creation and the life
that it has had. -/
theorem FlowRow.toFlow_withDefinition {r : FlowRow} {old f : Flow} (h : r.toFlow = .ok old)
    (hw : f.graph.WellFormed) (hg : f.graph.Writable) :
    (r.withDefinition (.ofFlow f)).toFlow = .ok ⟨r.id, f.name, f.description, f.graph, old.status,
      old.createdAt, old.lastRun⟩ := by
  obtain ⟨-, -, -, -, hstatus, hcreated, hlast⟩ := toFlow_eq_ok_iff.mp h
  exact toFlow_eq_ok_iff.mpr ⟨⟨rfl, rfl, rfl⟩, hg.readList_nodes, hg.readList_edges, hw, hstatus,
    hcreated, hlast⟩

namespace Store

variable {s s' : Store} {id : String} {x : Slot}

/-- **What stands in a store**, in order. -/
def slots : Store → List Slot
  | memory m => m.flows.map .flow
  | rows m => (m.flows.getD []).map .row

theorem slot_eq_find? (s : Store) (id : String) : s.slot id = s.slots.find? (·.id == id) := by
  cases s with
  | memory m =>
    show (m.flows.find? _).map Slot.flow = (m.flows.map Slot.flow).find? _
    rw [List.find?_map]
    rfl
  | rows m =>
    show ((m.flows.getD []).find? _).map Slot.row = ((m.flows.getD []).map Slot.row).find? _
    rw [List.find?_map]
    rfl

/-- The slot of an id is one of the slots, and has this id. -/
theorem mem_slots_of_slot {s : Store} {id : String} {x : Slot} (hx : s.slot id = some x) :
    x ∈ s.slots ∧ x.id = id := by
  rw [slot_eq_find?] at hx
  exact ⟨List.mem_of_find?_eq_some hx,
    beq_iff_eq.mp (List.find?_some (p := fun y : Slot => y.id == id) hx)⟩

theorem ids_slots (s : Store) : s.slots.map (·.id) = s.lives.map (·.id) := by
  cases s with
  | memory m => simp only [slots, lives, List.map_map]; rfl
  | rows m => simp only [slots, lives, List.map_map]; rfl

/-- **A flow is loaded from the slot of its id.** -/
theorem HasTables.get_eq (hs : s.HasTables) (id : String) :
    s.get id = (s.slots.find? (·.id == id)).mapM Slot.read := by
  rw [← slot_eq_find?]
  cases s with
  | memory m =>
    show Except.ok (m.get? id) = ((m.get? id).map Slot.flow).mapM Slot.read
    cases m.get? id <;> rfl
  | rows m =>
    obtain ⟨table, htable⟩ := hs.exists_flows
    rw [slot_of_flows htable]
    show m.get id = _
    unfold RowStore.get
    rw [RowStore.flowRows_eq_ok_iff.mpr htable]
    show (table.find? _).mapM FlowRow.toFlow = ((table.find? _).map Slot.row).mapM Slot.read
    cases table.find? (·.id == id) <;> rfl

/-- **The list is read from all slots.** -/
theorem HasTables.list_eq (hs : s.HasTables) : s.list = s.slots.mapM Slot.read := by
  cases s with
  | memory m =>
    show Except.ok m.flows = (m.flows.map Slot.flow).mapM Slot.read
    have hread : Slot.read ∘ Slot.flow = pure := rfl
    rw [List.mapM_map, hread, List.mapM_pure, List.map_id']
    rfl
  | rows m =>
    obtain ⟨table, htable⟩ := hs.exists_flows
    show m.list = ((m.flows.getD []).map Slot.row).mapM Slot.read
    unfold RowStore.list
    rw [RowStore.flowRows_eq_ok_iff.mpr htable, htable, List.mapM_map]
    rfl

/-- Only one slot is that of an id. -/
theorem Orderly.eq_of_slot (hs : s.Orderly) (hx : s.slot id = some x) :
    ∀ y ∈ s.slots, y.id = id → y = x := by
  intro y hy hid
  obtain ⟨hmem, hxid⟩ := mem_slots_of_slot hx
  have hids := hs.ids_nodup
  rw [← ids_slots] at hids
  exact List.inj_on_of_nodup_map hids hy hmem (hid.trans hxid.symm)

/-- **A change of one slot is seen as a change of one flow**, if what is there now can be read. -/
theorem Orderly.replaces_of_slots (hs : s.Orderly) (hs' : s'.HasTables) {change : Slot → Slot}
    (hslots : s'.slots = s.slots.map fun x => if x.id = id then change x else x)
    (hid : ∀ x, x.id = id → (change x).id = id) (hx : s.slot id = some x) {old new : Flow}
    (hold : x.read = .ok old) (hnew : (change x).read = .ok new) : s.Replaces s' id new := by
  have hfound : s.slots.find? (·.id == id) = some x := (s.slot_eq_find? id).symm.trans hx
  refine ⟨?_, fun other hother => ?_, ?_⟩
  · rw [hs'.get_eq, hslots, find?_map_self Slot.id change hid, hfound]
    show (change x).read >>= (fun f => .ok (some f)) = _
    rw [hnew]
    rfl
  · rw [hs'.get_eq, hs.hasTables.get_eq, hslots, find?_map_ne Slot.id change hother hid]
  · rw [hs'.list_eq, hs.hasTables.list_eq, hslots]
    -- slot by slot, the list has what it had but for the one flow
    refine mapM_map_eq fun y hy => ?_
    by_cases hyid : y.id = id
    · obtain rfl := hs.eq_of_slot hx y hy hyid
      rw [if_pos hyid, hnew, hold]
      show Except.ok new = .ok (if old.id = id then new else old)
      rw [if_pos ((Slot.id_of_read hold).trans hyid)]
    · rw [if_neg hyid]
      cases hf : y.read with
      | error e => rfl
      | ok f =>
        show Except.ok f = .ok (if f.id = id then new else f)
        rw [if_neg fun h => hyid ((Slot.id_of_read hf).symm.trans h)]

/-! ### Storing a life -/

/-- To store a life changes the slots of its id. -/
theorem Orderly.slots_setLife (hs : s.Orderly) (id : String) (status : Status)
    (lastRun : Option Instant) : (s.setLife id status lastRun).2.slots
      = s.slots.map fun x => if x.id = id then x.withLife status lastRun else x := by
  cases s with
  | memory m =>
    have hids := hs.ids_nodup
    rw [MemoryStore.ids_lives] at hids
    show (MemoryStore.modify id _ m.flows).map Slot.flow = (m.flows.map Slot.flow).map _
    rw [MemoryStore.modify_eq_map hids, List.map_map, List.map_map]
    refine List.map_congr_left fun f _ => ?_
    show Slot.flow (if f.id = id then _ else f) = if f.id = id then _ else Slot.flow f
    split <;> rfl
  | rows m =>
    obtain ⟨table, htable⟩ := hs.hasTables.exists_flows
    obtain ⟨m', hm', -, hflows⟩ := RowStore.exists_setLife htable id status lastRun
    rw [hm', slots, slots, hflows, htable]
    show (table.map _).map Slot.row = (table.map Slot.row).map _
    rw [List.map_map, List.map_map]
    refine List.map_congr_left fun r _ => ?_
    show Slot.row (if r.id = id then _ else r) = if r.id = id then _ else Slot.row r
    split <;> rfl

/-- **To store a life changes the one flow**, if the last run is read back. -/
theorem Orderly.replaces_setLife (hs : s.Orderly) {flow : Flow} (hget : s.get id = .ok (some flow))
    (status : Status) {lastRun : Option Instant} (hlast : s.ReadsBack lastRun) :
    s.Replaces (s.setLife id status lastRun).2 id (flow.withLife status lastRun) := by
  obtain ⟨x, hx, hread⟩ := get_eq_some_iff.mp hget
  refine hs.replaces_of_slots (hs.hasTables.setLife id status lastRun)
    (hs.slots_setLife id status lastRun) (fun y hy => ?_) hx hread ?_
  · rw [Slot.id_withLife, hy]
  · cases s with
    | memory m =>
      obtain ⟨f, -, rfl⟩ := Option.map_eq_some_iff.mp hx
      obtain rfl := Except.ok.inj hread
      rfl
    | rows m =>
      obtain ⟨table, r, -, -, rfl⟩ := exists_table hx
      exact FlowRow.toFlow_withLife hread hlast

/-! ### Updates -/

/-- The rows with a new definition in those of its id. -/
theorem exists_update {m : RowStore} {table : List FlowRow} (h : m.flows = some table) (f : Flow) :
    (rows m).update f = (.ok (table.any (·.id == f.id)), .rows { m with
      flows := some (table.map fun r => if r.id = f.id then r.withDefinition (.ofFlow f) else r) }) := by
  show settleWith rows m (m.update f) = _
  unfold RowStore.update
  rw [RowStore.modify_of_flows h]
  simp only [beq_iff_eq]
  rfl

/-- To update a flow changes the slots of its id. -/
theorem Orderly.slots_update (hs : s.Orderly) (f : Flow) : (s.update f).2.slots
      = s.slots.map fun x => if x.id = f.id then x.redefine f else x := by
  cases s with
  | memory m =>
    have hids := hs.ids_nodup
    rw [MemoryStore.ids_lives] at hids
    show (MemoryStore.modify f.id _ m.flows).map Slot.flow = (m.flows.map Slot.flow).map _
    rw [MemoryStore.modify_eq_map hids, List.map_map, List.map_map]
    refine List.map_congr_left fun old _ => ?_
    show Slot.flow (if old.id = f.id then _ else old) = if old.id = f.id then _ else Slot.flow old
    split <;> rfl
  | rows m =>
    obtain ⟨table, htable⟩ := hs.hasTables.exists_flows
    rw [exists_update htable, slots, slots, htable]
    show (table.map _).map Slot.row = (table.map Slot.row).map _
    rw [List.map_map, List.map_map]
    refine List.map_congr_left fun r _ => ?_
    show Slot.row (if r.id = f.id then _ else r) = if r.id = f.id then _ else Slot.row r
    split <;> rfl

/-- An update is nothing to the log. -/
theorem HasTables.entries_update (hs : s.HasTables) (f : Flow) :
    (s.update f).2.entries = s.entries := by
  cases s with
  | memory m => rfl
  | rows m =>
    obtain ⟨table, htable⟩ := hs.exists_flows
    rw [exists_update htable]
    rfl

/-- **An update of a flow that is not there changes nothing**, and tells so. -/
theorem Orderly.update_of_slot_eq_none (hs : s.Orderly) {f : Flow} (hx : s.slot f.id = none) :
    s.update f = (.ok false, s) := by
  rw [slot_eq_find?, List.find?_eq_none] at hx
  have hne : ∀ x ∈ s.slots, x.id ≠ f.id := fun x hx' h => hx x hx' (beq_iff_eq.mpr h)
  -- no flow of the id is stored, so the change has nothing to act on
  cases s with
  | memory m =>
    have hids := hs.ids_nodup
    rw [MemoryStore.ids_lives] at hids
    have hfresh : ∀ old ∈ m.flows, old.id ≠ f.id := fun old hold =>
      hne (.flow old) (List.mem_map_of_mem hold)
    have hsame : m.update f = m := by
      unfold MemoryStore.update
      rw [MemoryStore.modify_eq_map hids,
        List.map_congr_left fun old hold => if_neg (hfresh old hold), List.map_id']
    have hlacks : m.has f.id = false :=
      List.any_eq_false.mpr fun old hold h => hfresh old hold (beq_iff_eq.mp h)
    show (Except.ok (m.has f.id), memory (m.update f)) = _
    rw [hsame, hlacks]
  | rows m =>
    obtain ⟨table, htable⟩ := hs.hasTables.exists_flows
    have hfresh : ∀ r ∈ table, r.id ≠ f.id := fun r hr =>
      hne (.row r) (by rw [slots, htable]; exact List.mem_map_of_mem hr)
    have hlacks : table.any (·.id == f.id) = false :=
      List.any_eq_false.mpr fun r hr h => hfresh r hr (beq_iff_eq.mp h)
    rw [exists_update htable, hlacks,
      List.map_congr_left fun r hr => if_neg (hfresh r hr), List.map_id', ← htable]

/-- A definition is read back: in memory any is, and in rows one with a well-formed graph that is
read back from its text. -/
def ReadsDefinition (s : Store) (f : Flow) : Prop :=
  match s with
  | memory _ => True
  | rows _ => f.graph.WellFormed ∧ f.graph.Writable

/-- **The instant of creation after an update** of a flow by another: in memory that of the other, in
rows the one that the flow has had. -/
def creation (s : Store) (f old : Flow) : Instant :=
  match s with
  | memory _ => f.createdAt
  | rows _ => old.createdAt

/-- What is read where a definition has been put in. -/
theorem read_redefine {f old : Flow} (hx : s.slot id = some x) (hid : x.id = f.id)
    (hread : x.read = .ok old) (hf : s.ReadsDefinition f) :
    (x.redefine f).read = .ok ⟨f.id, f.name, f.description, f.graph, old.status,
      s.creation f old, old.lastRun⟩ := by
  cases s with
  | memory m =>
    obtain ⟨g, -, rfl⟩ := Option.map_eq_some_iff.mp hx
    obtain rfl := Except.ok.inj hread
    rfl
  | rows m =>
    obtain ⟨table, r, -, -, rfl⟩ := exists_table hx
    obtain ⟨hw, hg⟩ : f.graph.WellFormed ∧ f.graph.Writable := hf
    have hrow := FlowRow.toFlow_withDefinition hread hw hg
    rwa [show r.id = f.id from hid] at hrow

/-- **An update puts the definition of a flow into the slot of its id**, if there is one, and changes
nothing else: each slot stays in its place, and the log as it is.  What is seen then is the one flow
with another name, description and graph, and in memory with another instant of creation. -/
theorem Orderly.update_redefines (hs : s.Orderly) (f : Flow) :
    (s.slot f.id = none → s.update f = (.ok false, s)) ∧
      ∀ x, s.slot f.id = some x →
        (s.update f).1 = .ok true ∧
        (s.update f).2.slots = s.slots.map (fun y => if y.id = f.id then x.redefine f else y) ∧
        (s.update f).2.entries = s.entries ∧
        ∀ old, x.read = .ok old → s.ReadsDefinition f →
          s.Replaces (s.update f).2 f.id ⟨f.id, f.name, f.description, f.graph, old.status,
            s.creation f old, old.lastRun⟩ := by
  refine ⟨hs.update_of_slot_eq_none, fun x hx => ?_⟩
  have hfound : s.slots.find? (·.id == f.id) = some x := (s.slot_eq_find? f.id).symm.trans hx
  have hid : x.id = f.id :=
    beq_iff_eq.mp (List.find?_some (p := fun y : Slot => y.id == f.id) hfound)
  refine ⟨(slot_update hx f).1 rfl, ?_, hs.hasTables.entries_update f, fun old hold hf => ?_⟩
  · rw [hs.slots_update f]
    refine List.map_congr_left fun y hy => ?_
    split
    · next hyid => rw [hs.eq_of_slot hx y hy hyid]
    · rfl
  · exact hs.replaces_of_slots (hs.hasTables.update f) (hs.slots_update f)
      (fun y => Slot.id_redefine) hx hold (read_redefine hx hid hold hf)

/-- A flow that has been run, behind one that has not. -/
def newcomer : Flow := .fresh "other" "Other" "" ⟨[], []⟩ ⟨0, 0⟩

@[inherit_doc newcomer]
def veteran : Flow :=
  ⟨"loop", "Loop", "before", ⟨[⟨"start", "trigger", Json.empty, .origin⟩], []⟩, .active, ⟨0, 0⟩,
    some ⟨60, 0⟩⟩

/-- A flow with the same id, and all else different. -/
def successor : Flow :=
  ⟨"loop", "Spiral", "after", ⟨[⟨"begin", "trigger", Json.empty, .origin⟩],
    [⟨"back", "begin", "begin", none, none⟩]⟩, .running, ⟨3600, 0⟩, none⟩

/-- In rows the flow keeps the instant of its creation, in memory it gets the other one. -/
theorem update_redefines_successor :
    let m : MemoryStore := ⟨[newcomer, veteran], []⟩
    (rows m.inRows).Replaces ((rows m.inRows).update successor).2 "loop"
        { successor with status := .active, createdAt := ⟨0, 0⟩, lastRun := some ⟨60, 0⟩ } ∧
      (memory m).Replaces ((memory m).update successor).2 "loop"
        { successor with status := .active, lastRun := some ⟨60, 0⟩ } := by
  intro m
  have hids : (m.flows.map (·.id)).Nodup := by decide
  have hread : (FlowRow.ofFlow veteran).toFlow = .ok veteran :=
    Flow.kept_of_writable (Graph.validate_eq_ok_iff.mp (by decide +kernel)) (by decide +kernel)
  have hdefinition : successor.graph.WellFormed ∧ successor.graph.Writable :=
    ⟨Graph.validate_eq_ok_iff.mp (by decide +kernel), by decide +kernel⟩
  obtain ⟨-, hrows⟩ := Orderly.update_redefines (s := rows m.inRows) ⟨hids, rfl, rfl⟩ successor
  obtain ⟨-, hmemory⟩ := Orderly.update_redefines (s := memory m) ⟨hids, trivial⟩ successor
  obtain ⟨-, -, -, hrows⟩ := hrows (.row (.ofFlow veteran)) rfl
  obtain ⟨-, -, -, hmemory⟩ := hmemory (.flow veteran) rfl
  exact ⟨hrows veteran hread hdefinition, hmemory veteran rfl trivial⟩

/-- **It is not so that an update leaves the instant of creation.** -/
theorem update_redefines_recreated :
    ¬ ∀ (s : Store) (f old new : Flow), s.Orderly → s.get f.id = .ok (some old) →
      (s.update f).2.get f.id = .ok (some new) → new.createdAt = old.createdAt := by
  intro hkept
  have hcreated := hkept (memory ⟨[veteran], []⟩) successor veteran
    (successor.withLife .active (some ⟨60, 0⟩)) ⟨by decide, trivial⟩ rfl rfl
  exact absurd hcreated (by decide)

end Store

end Flowgraph
