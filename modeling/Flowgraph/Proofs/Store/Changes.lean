import Flowgraph.Proofs.Operation.Transcript
import Flowgraph.Proofs.Store.Slots
import Flowgraph.Proofs.Store.Sound

/-!
# What requests do to slots

A request leaves the slots of a store as they are, or changes those of one id, takes them away, or puts
a new one behind the others (`World.mem_slots_answer`).  Slots and log are all there is to a store
(`Store.HasTables.eq_of_slots`), so a definition that is put in where it already stands changes nothing
(`Store.Orderly.update_of_redefine_eq`).
-/

namespace Flowgraph

/-- The slot is a row. -/
def Slot.isRow : Slot → Bool
  | flow _ => false
  | row _ => true

/-- A request that changes a slot leaves it its id. -/
theorem Request.id_onSlot {id : String} {x : Slot} (hx : x.id = id) (q : Request) :
    (q.onSlot id x).id = id := by
  cases q with
  | update f =>
    rw [onSlot_update]
    split
    · next hid => exact (Slot.id_redefine (hx.trans hid.symm)).trans hid
    · exact hx
  | setLife other status lastRun =>
    rw [onSlot_setLife]
    split
    · exact (x.id_withLife status lastRun).trans hx
    · exact hx
  | _ => exact hx

/-! ### All slots -/

namespace Store

variable {s s' : Store}

/-- The store keeps its flows in rows. -/
def isRows : Store → Bool
  | memory _ => false
  | rows _ => true

/-- The slot of a flow that is added. -/
def slotOf (f : Flow) : Store → Slot
  | memory _ => .flow f
  | rows _ => .row (.ofFlow f)

theorem isRow_of_mem_slots {x : Slot} (hx : x ∈ s.slots) : x.isRow = s.isRows := by
  cases s with
  | memory m =>
    obtain ⟨f, -, rfl⟩ := List.mem_map.mp hx
    rfl
  | rows m =>
    obtain ⟨r, -, rfl⟩ := List.mem_map.mp hx
    rfl

/-- A flow that is added has its slot behind the others, if it is added. -/
theorem HasTables.slots_insert (hs : s.HasTables) (f : Flow) :
    (s.insert f).2.slots = s.slots ∨ (s.insert f).2.slots = s.slots ++ [s.slotOf f] := by
  cases s with
  | memory m =>
    show (Store.settle memory m (m.insert f)).2.slots = _ ∨
      (Store.settle memory m (m.insert f)).2.slots = _
    unfold MemoryStore.insert
    split
    · exact .inl rfl
    · exact .inr List.map_append
  | rows m =>
    obtain ⟨table, htable⟩ := hs.exists_flows
    show (Store.settle rows m (m.insert f)).2.slots = _ ∨
      (Store.settle rows m (m.insert f)).2.slots = _
    -- the table refuses a row under an id that it has
    rw [RowStore.insert_of_flows htable]
    split
    · exact .inl rfl
    · refine .inr ?_
      rw [Store.settle, slots, slots, htable]
      exact List.map_append

/-- A flow that is removed takes its slot away. -/
theorem HasTables.slots_delete (hs : s.HasTables) (id : String) :
    (s.delete id).2.slots = s.slots.filter (·.id != id) := by
  cases s with
  | memory m =>
    show (m.flows.filter _).map Slot.flow = (m.flows.map Slot.flow).filter _
    rw [List.filter_map]
    rfl
  | rows m =>
    obtain ⟨table, htable⟩ := hs.exists_flows
    show (settleWith rows m (m.delete id)).2.slots = _
    rw [RowStore.delete_of_flows htable, settleWith, slots, slots, htable]
    show (table.filter _).map Slot.row = (table.map Slot.row).filter _
    rw [List.filter_map]
    rfl

theorem slots_append (s : Store) (r : Record) : (s.append r).2.slots = s.slots := by
  cases s with
  | memory m => rfl
  | rows m =>
    obtain ⟨m', hm', hflows⟩ := RowStore.exists_append m r
    rw [hm', slots, slots, hflows]

/-- **Slots and log are all there is to a store.** -/
theorem HasTables.eq_of_slots (hs : s.HasTables) (hs' : s'.HasTables) (hslots : s'.slots = s.slots)
    (hentries : s'.entries = s.entries) : s' = s := by
  cases s with
  | memory m =>
    cases s' with
    | rows m' => exact nomatch hentries
    | memory m' =>
      -- a slot in memory is its flow
      have hflows : m'.flows = m.flows :=
        List.map_injective_iff.mpr (fun f g h => Slot.flow.inj h) hslots
      have hrecords : m'.records = m.records := Sum.inl.inj hentries
      exact congrArg memory (congrArg₂ MemoryStore.mk hflows hrecords)
  | rows m =>
    cases s' with
    | memory m' => exact nomatch hentries
    | rows m' =>
      obtain ⟨table, htable⟩ := hs.exists_flows
      obtain ⟨table', htable'⟩ := hs'.exists_flows
      obtain ⟨runs, hruns⟩ := hs.exists_runs
      obtain ⟨runs', hruns'⟩ := hs'.exists_runs
      rw [slots, slots, htable, htable'] at hslots
      rw [entries, entries, hruns, hruns'] at hentries
      -- a slot in rows is its row, and the tables are there in both stores
      have hflows : table' = table :=
        List.map_injective_iff.mpr (fun r r' h => Slot.row.inj h) hslots
      obtain rfl : runs' = runs := Sum.inr.inj hentries
      refine congrArg rows (congrArg₂ RowStore.mk ?_ (hruns'.trans hruns.symm))
      rw [htable, htable', hflows]

/-- **A definition that is already there changes nothing.** -/
theorem Orderly.update_of_redefine_eq (hs : s.Orderly) {f : Flow} {x : Slot}
    (hx : s.slot f.id = some x) (hsame : x.redefine f = x) : s.update f = (.ok true, s) := by
  have hslots : (s.update f).2.slots = s.slots := by
    rw [hs.slots_update f]
    refine (List.map_congr_left fun y hy => ?_).trans (List.map_id' _)
    split
    · next hyid => rw [hs.eq_of_slot hx y hy hyid, hsame]
    · rfl
  exact Prod.ext ((slot_update hx f).1 rfl) (hs.hasTables.eq_of_slots (hs.hasTables.update f) hslots
    (hs.hasTables.entries_update f))

/-- **A flow that has been loaded is replaced by one that differs in its definition only.**  To store
this one again changes nothing. -/
theorem Orderly.update_replaces (hs : s.Orderly) {id : String} {old new : Flow}
    (hget : s.get id = .ok (some old)) (hid : new.id = old.id) (hstatus : new.status = old.status)
    (hcreated : new.createdAt = old.createdAt) (hlast : new.lastRun = old.lastRun)
    (hnew : s.ReadsDefinition new) :
    ∃ s', s.update new = (.ok true, s') ∧ s.Replaces s' id new ∧ s'.entries = s.entries ∧
      s'.update new = (.ok true, s') := by
  obtain ⟨x, hx, hread⟩ := get_eq_some_iff.mp hget
  obtain ⟨-, hxid⟩ := mem_slots_of_slot hx
  obtain rfl : new.id = id := hid.trans ((Slot.id_of_read hread).trans hxid)
  obtain ⟨hfirst, hslot⟩ := slot_update hx new
  rw [Request.onSlot_update, if_pos rfl] at hslot
  -- rows keep the instant of creation that they have, and memory takes that of the new flow
  have hcreation : s.creation new old = new.createdAt := by
    cases s with
    | memory m => rfl
    | rows m => exact hcreated.symm
  have hread' : (x.redefine new).read = .ok new := by
    rw [read_redefine hx hxid hread hnew, hcreation, ← hstatus, ← hlast]
  have horder : (s.update new).2.Orderly :=
    World.answer_orderly (w := .start s default) hs false (.update new)
  exact ⟨(s.update new).2, Prod.ext (hfirst rfl) rfl,
    hs.replaces_of_slots horder.hasTables (hs.slots_update new) (fun y => Slot.id_redefine) hx hread
      hread',
    hs.hasTables.entries_update new,
    horder.update_of_redefine_eq hslot (Slot.redefine_redefine new new x)⟩

end Store

namespace World

variable {w : World}

/-- A store stays of its kind. -/
theorem answer_isRows (w : World) (isCancelled : Bool) (q : Request) :
    (w.answer isCancelled q).2.store.isRows = w.store.isRows := by
  -- whether or not it fails, a request leaves a store of the kind that it was asked of
  have hmemory : ∀ old new, (Store.settle .memory old new).2.isRows = false := fun _ new => by
    cases new <;> rfl
  have hrows : ∀ old new, (Store.settle .rows old new).2.isRows = true := fun _ new => by
    cases new <;> rfl
  have hfound : ∀ {α : Type} (old : RowStore) (new : Except Fault (α × RowStore)),
      (Store.settleWith .rows old new).2.isRows = true := fun _ new => by
    cases new <;> rfl
  obtain ⟨store, time, clock, made, unread⟩ := w
  cases store with
  | memory m =>
    cases q with
    | insert f => exact hmemory m _
    | _ => rfl
  | rows m =>
    cases q with
    | insert _ | setLife _ _ _ | append _ => exact hrows m _
    | update _ | delete _ => exact hfound m _
    | _ => rfl

/-- **Where a slot comes from** that is there after a request: it is that of a flow that has been
added, or it has been there before and the request has done to it what it does to slots. -/
theorem mem_slots_answer (hw : w.store.Orderly) (isCancelled : Bool) {q : Request} {x : Slot}
    (hx : x ∈ (w.answer isCancelled q).2.store.slots) :
    (∃ f, q = .insert f ∧ x = w.store.slotOf f) ∨ ∃ y ∈ w.store.slots, x = q.onSlot y.id y := by
  cases q with
  | insert f =>
    change x ∈ (w.store.insert f).2.slots at hx
    -- only here can there be a slot that was not there before
    rcases hw.hasTables.slots_insert f with hslots | hslots
    · rw [hslots] at hx
      exact .inr ⟨x, hx, rfl⟩
    · rw [hslots, List.mem_append, List.mem_singleton] at hx
      exact hx.elim (fun hx => .inr ⟨x, hx, rfl⟩) fun hx => .inl ⟨f, rfl, hx⟩
  | update f =>
    change x ∈ (w.store.update f).2.slots at hx
    rw [hw.slots_update] at hx
    obtain ⟨y, hy, rfl⟩ := List.mem_map.mp hx
    refine .inr ⟨y, hy, ?_⟩
    simp only [Request.onSlot_update, eq_comm]
  | setLife id status lastRun =>
    change x ∈ (w.store.setLife id status lastRun).2.slots at hx
    rw [hw.slots_setLife] at hx
    obtain ⟨y, hy, rfl⟩ := List.mem_map.mp hx
    refine .inr ⟨y, hy, ?_⟩
    simp only [Request.onSlot_setLife, eq_comm]
  | delete id =>
    change x ∈ (w.store.delete id).2.slots at hx
    rw [hw.hasTables.slots_delete] at hx
    exact .inr ⟨x, (List.mem_filter.mp hx).1, rfl⟩
  | append r =>
    change x ∈ (w.store.append r).2.slots at hx
    rw [w.store.slots_append] at hx
    exact .inr ⟨x, hx, rfl⟩
  | _ => exact .inr ⟨x, hx, rfl⟩

end World

end Flowgraph
