import Flowgraph.Proofs.Store.InRows

/-!
# What stands for one flow in a store

A store in memory holds a flow itself, a store in rows holds the row of it (`Store.slot`).  To load the
flow is to read what stands for it (`Store.get_eq_some_iff`).  To update it is to put another
definition in there, which replaces the one before, whatever that was (`Slot.redefine_redefine`); to
store a life is to put that in and to keep the definition.

`Request.onSlot` says this of every request but a deletion, and `World.slot_answer` that it is what the
store does, whichever store it is.
-/

namespace Flowgraph

/-- **What stands for a flow in a store.** -/
inductive Slot where
  | flow (f : Flow)
  | row (r : FlowRow)

namespace Slot

/-- The flow that is read. -/
def read : Slot → Except Fault Flow
  | flow f => .ok f
  | row r => r.toFlow

/-- **What stands there with the definition of a flow.**  In memory the instant of creation comes with
the definition, in a row it does not. -/
def redefine (f : Flow) : Slot → Slot
  | flow old => .flow (f.withLife old.status old.lastRun)
  | row r => .row (r.withDefinition (.ofFlow f))

/-- What stands there with another life. -/
def withLife (status : Status) (lastRun : Option Instant) : Slot → Slot
  | flow f => .flow (f.withLife status lastRun)
  | row r => .row (r.withLife status lastRun)

/-- **The last run that stands there**: in memory the instant itself, in a row its text. -/
def LastRan (t : Option Instant) : Slot → Prop
  | flow f => f.lastRun = t
  | row r => r.lastRun = t.map Instant.rowText

/-- A graph that is put in is read back. -/
def Keeps (f : Flow) : Slot → Prop
  | flow _ => True
  | row _ => f.graph.Writable

/-- **The last definition counts.** -/
@[simp] theorem redefine_redefine (f f' : Flow) (x : Slot) :
    (x.redefine f).redefine f' = x.redefine f' := by
  cases x <;> rfl

/-- **The definition that has been put in is read back.** -/
theorem read_redefine {x : Slot} {f g : Flow} (hx : x.Keeps f) (h : (x.redefine f).read = .ok g) :
    g.name = f.name ∧ g.description = f.description ∧ g.graph = f.graph := by
  cases x with
  | flow old =>
    obtain rfl := Except.ok.inj h
    exact ⟨rfl, rfl, rfl⟩
  | row r =>
    have hg : f.graph.Writable := hx
    obtain ⟨⟨-, hname, hdescription⟩, hnodes, hedges, -⟩ := FlowRow.toFlow_eq_ok_iff.mp h
    have hnodes' : f.graph.nodes = g.graph.nodes :=
      Except.ok.inj (hg.readList_nodes.symm.trans hnodes)
    have hedges' : f.graph.edges = g.graph.edges :=
      Except.ok.inj (hg.readList_edges.symm.trans hedges)
    refine ⟨hname, hdescription, ?_⟩
    show Graph.mk g.graph.nodes g.graph.edges = f.graph
    rw [← hnodes', ← hedges']

variable {x : Slot} {t t' : Option Instant}

theorem lastRan_withLife (status : Status) (t : Option Instant) :
    (x.withLife status t).LastRan t := by
  cases x <;> rfl

/-- Another definition does not change the last run. -/
theorem LastRan.redefine (h : x.LastRan t) (f : Flow) : (x.redefine f).LastRan t := by
  cases x <;> exact h

/-- **To store the last run that stands there** is to change no last run. -/
theorem LastRan.withLife (h : x.LastRan t) (h' : x.LastRan t') (status : Status) :
    (x.withLife status t').LastRan t := by
  cases x with
  | flow f => exact (show f.lastRun = t' from h').symm.trans h
  | row r => exact (show r.lastRun = t'.map Instant.rowText from h').symm.trans h

/-- **The last run that is read is the one that stands there**, or at least it has its text. -/
theorem LastRan.of_read (h : x.LastRan t) {f : Flow} (hread : x.read = .ok f) :
    x.LastRan f.lastRun := by
  cases x with
  | flow g =>
    obtain rfl := Except.ok.inj hread
    rfl
  | row r =>
    have htext : r.lastRun = t.map Instant.rowText := h
    obtain ⟨-, -, -, -, -, -, hlast⟩ := FlowRow.toFlow_eq_ok_iff.mp hread
    show r.lastRun = f.lastRun.map Instant.rowText
    rw [htext] at hlast ⊢
    cases t with
    | none =>
      rw [Option.map_eq_none_iff.mp hlast.symm]
    | some t =>
      obtain ⟨t', ht', hread⟩ := Option.map_eq_some_iff.mp hlast.symm
      rw [ht']
      exact congrArg some (Instant.rowText_of_read? hread.symm).symm

end Slot

/-! ### Finding one flow among others -/

namespace MemoryStore

/-- To change the first flow of an id is to find it changed, and to find every other as it was. -/
theorem find?_modify {change : Flow → Flow} {id other : String}
    (hid : ∀ f, f.id = other → (change f).id = other) (flows : List Flow) :
    (modify other change flows).find? (·.id == id)
      = if other = id then (flows.find? (·.id == id)).map change
        else flows.find? (·.id == id) := by
  induction flows with
  | nil => simp [modify]
  | cons f rest ih =>
    unfold modify
    -- the first flow of the id is changed, and those behind it are left alone
    by_cases hf : f.id = other
    · rw [if_pos hf]
      by_cases hother : other = id
      · rw [if_pos hother, List.find?_cons_of_pos (by simpa [hother] using hid f hf),
          List.find?_cons_of_pos (by simpa [hother] using hf)]
        rfl
      · rw [if_neg hother, List.find?_cons_of_neg (by simpa [hid f hf] using hother),
          List.find?_cons_of_neg (by simpa [hf] using hother)]
    · rw [if_neg hf]
      by_cases hfound : f.id = id
      · have hother : other ≠ id := fun h => hf (hfound.trans h.symm)
        rw [if_neg hother, List.find?_cons_of_pos (by simpa using hfound),
          List.find?_cons_of_pos (by simpa using hfound)]
      · rw [List.find?_cons_of_neg (by simpa using hfound),
          List.find?_cons_of_neg (by simpa using hfound), ih]

end MemoryStore

/-- To change the rows of an id is to find the row changed, and to find every other as it was. -/
theorem FlowRow.find?_map {change : FlowRow → FlowRow} {id other : String}
    (hid : ∀ r, (change r).id = r.id) (rows : List FlowRow) :
    (rows.map fun r => if r.id = other then change r else r).find? (·.id == id)
      = if other = id then (rows.find? (·.id == id)).map change else rows.find? (·.id == id) := by
  by_cases hother : other = id
  · rw [if_pos hother, hother]
    exact Store.find?_map_self FlowRow.id change (fun r h => (hid r).trans h) rows
  · rw [if_neg hother]
    exact Store.find?_map_ne FlowRow.id change (Ne.symm hother) (fun r h => (hid r).trans h) rows

namespace Store

variable {s : Store} {id : String}

/-- **What stands for the flow of an id**, if there is one. -/
def slot (id : String) : Store → Option Slot
  | memory m => (m.get? id).map .flow
  | rows m => ((m.flows.getD []).find? (·.id == id)).map .row

/-- **To load a flow is to read what stands for it.** -/
theorem get_eq_some_iff {g : Flow} :
    s.get id = .ok (some g) ↔ ∃ x, s.slot id = some x ∧ x.read = .ok g := by
  cases s with
  | memory m =>
    show Except.ok (m.get? id) = _ ↔ ∃ x, (m.get? id).map Slot.flow = some x ∧ _
    constructor
    · intro h
      rw [Except.ok.inj h]
      exact ⟨_, rfl, rfl⟩
    · rintro ⟨x, hx, hread⟩
      obtain ⟨f, hf, rfl⟩ := Option.map_eq_some_iff.mp hx
      obtain rfl := Except.ok.inj hread
      rw [hf]
  | rows m =>
    -- a row has to be decoded, where a flow in memory is what it is
    refine RowStore.get_eq_some_iff.trans ?_
    constructor
    · rintro ⟨table, r, htable, hr, hread⟩
      refine ⟨.row r, ?_, hread⟩
      show ((m.flows.getD []).find? (·.id == id)).map Slot.row = _
      rw [htable]
      exact congrArg (Option.map Slot.row) hr
    · rintro ⟨x, hx, hread⟩
      obtain ⟨r, hr, rfl⟩ := Option.map_eq_some_iff.mp hx
      cases htable : m.flows with
      | none =>
        rw [htable] at hr
        exact nomatch hr
      | some table =>
        rw [htable] at hr
        exact ⟨table, r, rfl, hr, hread⟩

theorem exists_table {m : RowStore} {x : Slot} (hx : (rows m).slot id = some x) :
    ∃ table r, m.flows = some table ∧ table.find? (·.id == id) = some r ∧ x = .row r := by
  obtain ⟨r, hr, rfl⟩ := Option.map_eq_some_iff.mp hx
  cases htable : m.flows with
  | none =>
    rw [htable] at hr
    exact nomatch hr
  | some table =>
    rw [htable] at hr
    exact ⟨table, r, rfl, hr, rfl⟩

theorem slot_of_flows {m : RowStore} {table : List FlowRow} (h : m.flows = some table) :
    (rows m).slot id = (table.find? (·.id == id)).map .row := by
  rw [slot, h]
  rfl

/-- **To change rows** is to change the row of the one id. -/
theorem slot_modify {m : RowStore} {x : Slot} (hx : (rows m).slot id = some x) (other : String)
    (change : FlowRow → FlowRow) (hid : ∀ r, (change r).id = r.id) :
    ∃ found m' r, m.modify other change = .ok (found, m') ∧ x = .row r ∧
      (rows m').slot id = some (.row (if other = id then change r else r)) ∧
      (other = id → found = true) := by
  obtain ⟨table, r, htable, hr, rfl⟩ := exists_table hx
  refine ⟨_, _, r, RowStore.modify_of_flows htable change, rfl, ?_, ?_⟩
  · rw [slot_of_flows rfl]
    simp only [beq_iff_eq]
    rw [FlowRow.find?_map hid, hr]
    split <;> rfl
  · rintro rfl
    have hfound := List.find?_some (p := fun r : FlowRow => r.id == other) hr
    exact List.any_eq_true.mpr ⟨r, List.mem_of_find?_eq_some hr, hfound⟩

end Store

/-- **What a request does to what stands for a flow**, if it does not remove the flow. -/
def Request.onSlot (id : String) : Request → Slot → Slot
  | .update f, x => if f.id = id then x.redefine f else x
  | .setLife other status lastRun, x => if other = id then x.withLife status lastRun else x
  | _, x => x

theorem Request.onSlot_update (id : String) (f : Flow) (x : Slot) :
    (Request.update f).onSlot id x = if f.id = id then x.redefine f else x := rfl

theorem Request.onSlot_setLife (id other : String) (status : Status) (lastRun : Option Instant)
    (x : Slot) : (Request.setLife other status lastRun).onSlot id x
      = if other = id then x.withLife status lastRun else x := rfl

/-- Whatever stores no life for a flow keeps its last run. -/
theorem Slot.LastRan.onSlot {y : Slot} {t : Option Instant} (h : y.LastRan t) {q : Request}
    {id : String} (hq : ∀ status lastRun, q ≠ .setLife id status lastRun) :
    (q.onSlot id y).LastRan t := by
  cases q with
  | update f =>
    rw [Request.onSlot_update]
    split
    · exact h.redefine f
    · exact h
  | setLife other status lastRun =>
    have hother : other ≠ id := by
      rintro rfl
      exact hq _ _ rfl
    rwa [Request.onSlot_setLife, if_neg hother]
  | _ => exact h

namespace Store

variable {s : Store} {id : String} {x : Slot}

/-- A flow that is added does not stand before one that is there. -/
theorem slot_insert (hx : s.slot id = some x) (f : Flow) : (s.insert f).2.slot id = some x := by
  cases s with
  | memory m =>
    obtain ⟨g, hg, rfl⟩ := Option.map_eq_some_iff.mp hx
    show (settle memory m (m.insert f)).2.slot id = _
    unfold MemoryStore.insert
    split
    · exact hx
    · -- the search stops before it comes to the new flow
      show ((m.flows ++ [f]).find? _).map Slot.flow = _
      rw [List.find?_append, show m.flows.find? _ = some g from hg]
      rfl
  | rows m =>
    obtain ⟨table, r, htable, hr, rfl⟩ := exists_table hx
    show (settle rows m (m.insert f)).2.slot id = _
    rw [RowStore.insert_of_flows htable]
    split
    · exact hx
    · rw [settle, slot_of_flows rfl, List.find?_append, hr]
      rfl

/-- **To update a flow that is there is to put its definition in.** -/
theorem slot_update (hx : s.slot id = some x) (f : Flow) :
    (f.id = id → (s.update f).1 = .ok true) ∧
      (s.update f).2.slot id = some ((Request.update f).onSlot id x) := by
  cases s with
  | memory m =>
    obtain ⟨g, hg, rfl⟩ := Option.map_eq_some_iff.mp hx
    constructor
    · rintro rfl
      have hfound := List.find?_some (p := fun g : Flow => g.id == f.id) hg
      exact congrArg Except.ok (List.any_eq_true.mpr ⟨g, List.mem_of_find?_eq_some hg, hfound⟩)
    · show ((MemoryStore.modify f.id _ m.flows).find? _).map Slot.flow = _
      rw [MemoryStore.find?_modify (by intros; rfl), show m.flows.find? _ = some g from hg]
      rw [Request.onSlot_update]
      split <;> rfl
  | rows m =>
    obtain ⟨found, m', r, hm', rfl, hslot, hfound⟩ := slot_modify hx f.id
      (fun r => r.withDefinition (.ofFlow f)) fun _ => rfl
    show (_ → (settleWith rows m (m.update f)).1 = _) ∧ (settleWith rows m (m.update f)).2.slot id = _
    rw [RowStore.update, hm']
    refine ⟨fun hid => congrArg Except.ok (hfound hid), hslot.trans ?_⟩
    rw [Request.onSlot_update]
    split <;> rfl

theorem slot_setLife (hx : s.slot id = some x) (other : String) (status : Status)
    (lastRun : Option Instant) :
    (s.setLife other status lastRun).2.slot id
      = some ((Request.setLife other status lastRun).onSlot id x) := by
  cases s with
  | memory m =>
    obtain ⟨g, hg, rfl⟩ := Option.map_eq_some_iff.mp hx
    show ((MemoryStore.modify other _ m.flows).find? _).map Slot.flow = _
    rw [MemoryStore.find?_modify (by intro _ h; exact h), show m.flows.find? _ = some g from hg]
    rw [Request.onSlot_setLife]
    split <;> rfl
  | rows m =>
    obtain ⟨found, m', r, hm', rfl, hslot, -⟩ := slot_modify hx other
      (fun r => r.withLife status lastRun) fun _ => rfl
    show (settle rows m (m.setLife other status lastRun)).2.slot id = _
    rw [RowStore.setLife, hm']
    refine hslot.trans ?_
    rw [Request.onSlot_setLife]
    split <;> rfl

theorem slot_delete (hx : s.slot id = some x) {other : String} (hother : other ≠ id) :
    (s.delete other).2.slot id = some x := by
  -- in both stores the flows of one id are filtered out
  have hkept : ∀ {α : Type} (key : α → String) (l : List α),
      (l.filter fun a => key a != other).find? (key · == id) = l.find? (key · == id) := by
    intro α key l
    rw [List.find?_filter]
    refine congrArg (l.find? ·) (funext fun a => ?_)
    by_cases ha : key a = id <;> simp [ha, Ne.symm hother]
  cases s with
  | memory m =>
    show ((m.flows.filter _).find? _).map Slot.flow = _
    rw [hkept Flow.id]
    exact hx
  | rows m =>
    obtain ⟨table, r, htable, hr, rfl⟩ := exists_table hx
    show (settleWith rows m (m.delete other)).2.slot id = _
    rw [RowStore.delete_of_flows htable, settleWith, slot_of_flows rfl, hkept FlowRow.id, hr]
    rfl

theorem slot_append (s : Store) (r : Record) : (s.append r).2.slot id = s.slot id := by
  cases s with
  | memory m => rfl
  | rows m =>
    obtain ⟨m', hm', hflows⟩ := RowStore.exists_append m r
    rw [hm', slot, slot, hflows]

end Store

/-- **What a request does to what stands for a flow**, whoever asks. -/
theorem World.slot_answer {w : World} {id : String} {x : Slot} (hx : w.store.slot id = some x)
    (isCancelled : Bool) {q : Request} (hq : q ≠ .delete id) :
    (w.answer isCancelled q).2.store.slot id = some (q.onSlot id x) := by
  cases q with
  | insert f => exact Store.slot_insert hx f
  | update f => exact (Store.slot_update hx f).2
  | setLife other status lastRun => exact Store.slot_setLife hx other status lastRun
  | delete other => exact Store.slot_delete hx fun h => hq (h ▸ rfl)
  | append r => exact (w.store.slot_append r).trans hx
  | _ => exact hx

end Flowgraph
