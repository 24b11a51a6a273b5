import Flowgraph.Proofs.Store.Changes

/-!
# What stores give back

A slot in memory gives back the flow that has been put into it.  A row gives back the graph if that is
read from its text as it is (`Slot.Holds`), and then to put the definition in that has been read changes
nothing (`Slot.Holds.of_read`).  So a store that holds such a graph under an id is left as it is when
the flow of this id is stored as it has been loaded (`Store.Holds.update_self`).

A row gives back anything at all only if its instants can be read, too (`Store.Readable`).

Both last as long as what is put into rows can be read there (`World.answer_holds`,
`World.answer_readable`).
-/

namespace Flowgraph

/-! ### One slot -/

namespace Slot

/-- **A slot with a graph of some kind** that is read back from it. -/
def Holds (G : Graph → Prop) : Slot → Prop
  | flow f => G f.graph
  | row r => ∃ g, r.Holds g ∧ g.Writable ∧ G g

variable {x : Slot} {f : Flow} {G : Graph → Prop} {q : Request}

/-- **What is read is what stands there**: it has a graph of that kind, and a definition that is already
there. -/
theorem Holds.of_read (hx : x.Holds G) (h : x.read = .ok f) : G f.graph ∧ x.redefine f = x := by
  cases x with
  | flow g =>
    obtain rfl := Except.ok.inj h
    exact ⟨hx, rfl⟩
  | row r =>
    obtain ⟨g, hr, hg, hG⟩ := hx
    obtain ⟨⟨-, hname, hdescription⟩, hnodes, hedges, -⟩ := FlowRow.toFlow_eq_ok_iff.mp h
    rw [hr.nodes, hg.readList_nodes, Except.ok.injEq] at hnodes
    rw [hr.edges, hg.readList_edges, Except.ok.injEq] at hedges
    have hgraph : f.graph = g := by
      show Graph.mk f.graph.nodes f.graph.edges = g
      rw [← hnodes, ← hedges]
    refine ⟨hgraph ▸ hG, ?_⟩
    show row { r with
      name := f.name
      description := f.description
      nodes := FlowRow.listText (f.graph.nodes.map Node.toJson)
      edges := FlowRow.listText (f.graph.edges.map Edge.toJson) } = row r
    rw [hname, hdescription, ← hnodes, ← hedges, ← hr.nodes, ← hr.edges]

/-- A slot goes on to hold such a graph if such graphs are put in, and can be read in a row. -/
theorem Holds.onSlot (hx : x.Holds G) {id : String}
    (hq : ∀ f, f.id = id → q = .update f → G f.graph)
    (hwritable : x.isRow = true → ∀ f, f.id = id → q = .update f → f.graph.Writable) :
    (q.onSlot id x).Holds G := by
  cases q with
  | update f =>
    rw [Request.onSlot_update]
    split
    · next hid =>
      cases x with
      | flow _ => exact hq f hid rfl
      | row _ => exact ⟨f.graph, ⟨rfl, rfl⟩, hwritable rfl f hid rfl, hq f hid rfl⟩
    · exact hx
  | setLife other status lastRun =>
    rw [Request.onSlot_setLife]
    split
    · cases x with
      | flow _ => exact hx
      | row _ =>
        -- the columns of the graph stay as they are
        obtain ⟨g, hr, hg⟩ := hx
        exact ⟨g, ⟨hr.nodes, hr.edges⟩, hg⟩
    · exact hx
  | _ => exact hx

/-- A slot can be read as before if what is put into a row can be read there. -/
theorem exists_read_onSlot (hx : ∃ f, x.read = .ok f) (hsound : q.StoresSound)
    (hwritable : x.isRow = true → q.ChangesFlows → q.Writable) (id : String) :
    ∃ f, (q.onSlot id x).read = .ok f := by
  cases q with
  | update f =>
    rw [Request.onSlot_update]
    split
    · cases x with
      | flow _ => exact ⟨_, rfl⟩
      | row _ =>
        obtain ⟨old, hold⟩ := hx
        exact ⟨_, FlowRow.toFlow_withDefinition hold hsound (hwritable rfl trivial)⟩
    · exact hx
  | setLife other status lastRun =>
    rw [Request.onSlot_setLife]
    split
    · cases x with
      | flow _ => exact ⟨_, rfl⟩
      | row _ =>
        obtain ⟨old, hold⟩ := hx
        exact ⟨_, FlowRow.toFlow_withLife hold (hwritable rfl trivial)⟩
    · exact hx
  | _ => exact hx

end Slot

/-! ### All slots -/

namespace Store

variable {s : Store} {G : Graph → Prop} {id : String} {f : Flow}

/-- What is loaded is read from the slot of the flow. -/
theorem exists_slot_of_get (hget : s.get id = .ok (some f)) :
    ∃ x ∈ s.slots, s.slot id = some x ∧ x.id = id ∧ f.id = id ∧ x.read = .ok f := by
  obtain ⟨x, hx, hread⟩ := get_eq_some_iff.mp hget
  obtain ⟨hmem, hxid⟩ := mem_slots_of_slot hx
  exact ⟨x, hmem, hx, hxid, (Slot.id_of_read hread).trans hxid, hread⟩

/-- **A store with a graph of some kind under an id**, which is read back, if there is any. -/
structure Holds (s : Store) (id : String) (G : Graph → Prop) : Prop where
  orderly : s.Orderly
  slots : ∀ x ∈ s.slots, x.id = id → x.Holds G

/-- What is loaded has a graph of that kind. -/
theorem Holds.of_get (hs : s.Holds id G) (hget : s.get id = .ok (some f)) : G f.graph := by
  obtain ⟨x, hx, -, hxid, -, hread⟩ := exists_slot_of_get hget
  exact ((hs.slots x hx hxid).of_read hread).1

/-- **To update a flow by itself leaves the store as it is.** -/
theorem Holds.update_self (hs : s.Holds id G) (hget : s.get id = .ok (some f)) :
    s.update f = (.ok true, s) := by
  obtain ⟨x, hx, hslot, hxid, rfl, hread⟩ := exists_slot_of_get hget
  exact hs.orderly.update_of_redefine_eq hslot ((hs.slots x hx hxid).of_read hread).2

/-- **A store from which every flow can be read.** -/
structure Readable (s : Store) : Prop where
  orderly : s.Orderly
  slots : ∀ x ∈ s.slots, ∃ f, x.read = .ok f

/-- From such a store each flow that is there is loaded. -/
theorem Readable.get_cases (hs : s.Readable) (id : String) :
    s.get id = .ok none ∨ ∃ f, s.get id = .ok (some f) := by
  cases hx : s.slot id with
  | none =>
    left
    rw [hs.orderly.hasTables.get_eq, ← slot_eq_find?, hx]
    rfl
  | some x =>
    obtain ⟨f, hread⟩ := hs.slots x (mem_slots_of_slot hx).1
    exact .inr ⟨f, get_eq_some_iff.mpr ⟨x, hx, hread⟩⟩

/-- There is nothing in an empty store. -/
theorem orderly_of_empty (hs : s = .memory .empty ∨ s = .rows .empty) :
    s.Orderly ∧ s.slots = [] ∧ (s.isRows = true → s = .rows .empty) := by
  rcases hs with rfl | rfl
  · exact ⟨orderly_empty_memory, rfl, nofun⟩
  · exact ⟨orderly_empty_rows, rfl, fun _ => rfl⟩

end Store

/-! ### Requests -/

namespace World

variable {w : World} {G : Graph → Prop} {q : Request} {id : String}

/-- **A store goes on to hold a graph of some kind** if such are put in, and can be read in rows. -/
theorem answer_holds (hw : w.store.Holds id G) (isCancelled : Bool)
    (hq : ∀ f, f.id = id → q = .insert f ∨ q = .update f → G f.graph)
    (hwritable : w.store.isRows = true →
      ∀ f, f.id = id → q = .insert f ∨ q = .update f → f.graph.Writable) :
    (w.answer isCancelled q).2.store.Holds id G := by
  refine ⟨answer_orderly hw.orderly isCancelled q, fun x hx hxid => ?_⟩
  rcases mem_slots_answer hw.orderly isCancelled hx with ⟨f, rfl, rfl⟩ | ⟨y, hy, rfl⟩
  · generalize w.store = store at hwritable hxid
    cases store with
    | memory m => exact hq f hxid (.inl rfl)
    | rows m => exact ⟨f.graph, ⟨rfl, rfl⟩, hwritable rfl f hxid (.inl rfl), hq f hxid (.inl rfl)⟩
  · obtain rfl : y.id = id := (Request.id_onSlot rfl q).symm.trans hxid
    exact (hw.slots y hy rfl).onSlot (fun f hid hf => hq f hid (.inr hf))
      fun h f hid hf => hwritable ((Store.isRow_of_mem_slots hy).symm.trans h) f hid (.inr hf)

/-- **Every flow can be read as before** if what is put into rows can be read there. -/
theorem answer_readable (hw : w.store.Readable) (isCancelled : Bool) (hsound : q.StoresSound)
    (hwritable : w.store.isRows = true → q.ChangesFlows → q.Writable) :
    (w.answer isCancelled q).2.store.Readable := by
  refine ⟨answer_orderly hw.orderly isCancelled q, fun x hx => ?_⟩
  rcases mem_slots_answer hw.orderly isCancelled hx with ⟨f, rfl, rfl⟩ | ⟨y, hy, rfl⟩
  · generalize w.store = store at hwritable
    cases store with
    | memory m => exact ⟨f, rfl⟩
    | rows m => exact ⟨f, Flow.kept_of_writable hsound (hwritable rfl trivial)⟩
  · exact Slot.exists_read_onSlot (hw.slots y hy) hsound
      (fun h => hwritable ((Store.isRow_of_mem_slots hy).symm.trans h)) y.id

end World

end Flowgraph
