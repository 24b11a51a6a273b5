import Flowgraph.Proofs.Concurrent.Lifecycle
import Flowgraph.Proofs.Flow.Update

/-!
# Operations alone on a store in memory

What each operation on the stored flows comes to if nothing else goes on and the store is in memory.
Such a store refuses nothing but an id that is taken, so an operation fails only for a graph that is
not well formed or for an id that is not there, and it then leaves the store as it is.
-/

namespace Flowgraph

/-! ### Flows and ids -/

namespace MemoryStore

variable {m : MemoryStore} {id : String}

/-- The ids of the flows in memory, in order. -/
def ids (m : MemoryStore) : List String := m.flows.map (·.id)

theorem has_iff_mem_ids : m.has id = true ↔ id ∈ m.ids := by
  rw [has_iff, ids_lives, ids]

theorem get?_eq_none_iff : m.get? id = none ↔ id ∉ m.ids := by
  rw [← has_iff_mem_ids, get?, has, List.find?_eq_none, List.any_eq_true]
  simp

/-- What is loaded by an id has that id. -/
theorem id_of_get? {flow : Flow} (h : m.get? id = some flow) : flow.id = id :=
  beq_iff_eq.mp (List.find?_some (p := fun f : Flow => f.id == id) h)

theorem mem_ids_of_get? {flow : Flow} (h : m.get? id = some flow) : id ∈ m.ids :=
  List.mem_map.mpr ⟨flow, List.mem_of_find?_eq_some h, id_of_get? h⟩

/-- A new definition leaves the ids as they are. -/
theorem ids_update (m : MemoryStore) (f : Flow) : (m.update f).ids = m.ids := by
  have hlives := lives_modify_update f m.flows
  have hids := congrArg (List.map Life.id) hlives
  rwa [List.map_map, List.map_map] at hids

/-- To remove a flow that is not there changes nothing. -/
theorem delete_of_not_mem (h : id ∉ m.ids) : m.delete id = m := by
  have hall : m.flows.filter (fun f => f.id != id) = m.flows := by
    refine List.filter_eq_self.mpr fun f hf => ?_
    rw [bne_iff_ne]
    exact fun hid => h (List.mem_map.mpr ⟨f, hf, hid⟩)
  rw [delete, hall]

theorem ids_delete (m : MemoryStore) (id : String) :
    (m.delete id).ids = m.ids.filter (· != id) := by
  rw [ids, ids, delete, List.filter_map]
  rfl

theorem keepsTime (hids : m.ids.Nodup) {w : World} (hw : w.store = .memory m) : w.KeepsTime := by
  refine ⟨hw ▸ ⟨?_, trivial⟩, fun l hl => ?_⟩
  · rw [ids_lives]
    exact hids
  · rw [hw] at hl
    obtain ⟨f, -, rfl⟩ := List.mem_map.mp hl
    exact ⟨f.lastRun, rfl⟩

end MemoryStore

namespace Flows

variable {w : World} {m : MemoryStore} {id : String}

/-! ### Each operation -/

/-- What is left of a creation once the new flow has an id. -/
def build (draft : Draft) (id : String) : Attempt Flow :=
  match draft.graph with
  | .error e => throw e
  | .ok graph => do
    let createdAt ← ExceptT.lift (.request .clock)
    let flow := Flow.fresh id draft.name draft.description graph createdAt
    attempt (.request (.insert flow))
    return flow

theorem create_run (draft : Draft) :
    (create draft).run = .ask .freshFlowId fun id => (build draft id).run := by
  refine congrArg (Interaction.ask Request.freshFlowId) (funext fun id => ?_)
  unfold build
  cases draft.graph <;> rfl

/-- **To create a flow** fails and changes nothing, or puts a flow with a new id behind the
others. -/
theorem create_inMemory (draft : Draft) (hm : w.store = .memory m) :
    (∃ e w', World.run (create draft).run w = (.error e, w') ∧ w'.store = w.store) ∨
      ∃ flow w', World.run (create draft).run w = (.ok flow, w') ∧ flow.id ∉ m.ids ∧
        w'.store = .memory { m with flows := m.flows ++ [flow] } := by
  have hfresh : ∀ n, Request.freshFlowId ≠ .wait n := nofun
  rw [create_run, World.run_ask hfresh]
  generalize (w.answer false .freshFlowId).1 = id
  have hsame : (w.answer false .freshFlowId).2.store = w.store := rfl
  generalize (w.answer false .freshFlowId).2 = w₁ at hsame
  unfold build
  cases draft.graph with
  | error e => exact .inl ⟨e, w₁, rfl, hsame⟩
  | ok graph =>
    let flow := Flow.fresh id draft.name draft.description graph w₁.clock
    show (∃ e w', World.run (.ask (.insert flow) _) w₁.tick.2 = _ ∧ _) ∨
      ∃ flow' w', World.run (.ask (.insert flow) _) w₁.tick.2 = _ ∧ _
    have hstore : w₁.tick.2.store = .memory m := hsame.trans hm
    have hinsert : ∀ n, Request.insert flow ≠ .wait n := nofun
    rw [World.run_ask hinsert]
    have hanswer : w₁.tick.2.answer false (.insert flow)
        = w₁.tick.2.withStore (Store.settle .memory m (m.insert flow)) := by
      rw [World.answer, hstore]
      rfl
    -- the store refuses a flow whose id is there, and takes any other one
    rw [hanswer, MemoryStore.insert]
    by_cases htaken : m.has flow.id = true
    · rw [if_pos htaken]
      exact .inl ⟨_, _, rfl, hm.symm⟩
    · rw [if_neg htaken]
      exact .inr ⟨flow, _, rfl, fun h => htaken (MemoryStore.has_iff_mem_ids.mpr h), rfl⟩

/-- **To load a flow** changes nothing, and fails if it is not there. -/
theorem get_inMemory (id : String) (hm : w.store = .memory m) :
    ∃ res, World.run (get id).run w = (res, w) ∧
      ((id ∉ m.ids ∧ res = .error (.flowNotFound id)) ∨ id ∈ m.ids ∧ ∃ flow, res = .ok flow) := by
  have hget : ∀ n, Request.get id ≠ .wait n := nofun
  rw [get_run, World.run_ask hget]
  refine ⟨found id (w.store.get id), rfl, ?_⟩
  rw [hm]
  show _ ∧ found id (.ok (m.get? id)) = _ ∨ _ ∧ ∃ flow, found id (.ok (m.get? id)) = _
  cases hfind : m.get? id with
  | none => exact .inl ⟨MemoryStore.get?_eq_none_iff.mp hfind, rfl⟩
  | some flow => exact .inr ⟨MemoryStore.mem_ids_of_get? hfind, flow, rfl⟩

/-- **To remove a flow** fails and changes nothing if it is not there. -/
theorem delete_inMemory (id : String) (hm : w.store = .memory m) :
    ∃ res w', World.run (delete id).run w = (res, w') ∧ w'.store = .memory (m.delete id) ∧
      ((id ∉ m.ids ∧ res = .error (.flowNotFound id)) ∨ id ∈ m.ids ∧ res = .ok ()) := by
  have hanswer : w.answer false (.delete id) = (.ok (m.has id), (w.withStore (.ok (m.has id),
      .memory (m.delete id)) : Except Fault Bool × World).2) := by
    rw [World.answer, hm]
    rfl
  show ∃ res w', World.run (.ask (.delete id) _) w = _ ∧ _
  have hdelete : ∀ n, Request.delete id ≠ .wait n := by rintro _ ⟨⟩
  rw [World.run_ask hdelete, hanswer]
  by_cases hid : id ∈ m.ids
  · rw [MemoryStore.has_iff_mem_ids.mpr hid]
    exact ⟨_, _, rfl, rfl, .inr ⟨hid, rfl⟩⟩
  · rw [Bool.eq_false_iff.mpr (mt MemoryStore.has_iff_mem_ids.mp hid)]
    exact ⟨_, _, rfl, rfl, .inl ⟨hid, rfl⟩⟩

/-- **To change a definition** fails and changes nothing if the flow is not there or its new graph is
not well formed; otherwise all ids stay as they are. -/
theorem update_inMemory (id : String) (u : Update) (hm : w.store = .memory m) :
    ∃ res w', World.run (update id u).run w = (res, w') ∧
      ((id ∉ m.ids ∧ res = .error (.flowNotFound id) ∧ w' = w) ∨
        (id ∈ m.ids ∧ (∃ cause, res = .error (.malformedGraph cause)) ∧ w' = w) ∨
        (id ∈ m.ids ∧ (∃ flow, res = .ok flow) ∧
          ∃ m', w'.store = .memory m' ∧ m'.ids = m.ids)) := by
  have hloaded : w.store.get id = .ok (m.get? id) := hm ▸ rfl
  cases hfind : m.get? id with
  | none =>
    rw [hfind] at hloaded
    exact ⟨_, _, update_of_absent hloaded,
      .inl ⟨MemoryStore.get?_eq_none_iff.mp hfind, rfl, rfl⟩⟩
  | some flow =>
    have hid : id ∈ m.ids := MemoryStore.mem_ids_of_get? hfind
    rw [hfind] at hloaded
    cases happly : u.apply flow with
    | error e =>
      obtain ⟨cause, rfl⟩ := Update.fault_of_apply happly
      exact ⟨_, _, update_of_error hloaded happly, .inr (.inl ⟨hid, ⟨cause, rfl⟩, rfl⟩)⟩
    | ok flow' =>
      -- the flow is there, so the new one is stored and loaded again
      have hflow' : flow'.id = id := (Update.id_of_apply happly).trans (MemoryStore.id_of_get? hfind)
      have hids : (m.update flow').ids = m.ids := m.ids_update flow'
      have hstored : w.store.update flow' = (.ok true, .memory (m.update flow')) := by
        rw [hm]
        show (Except.ok (m.has flow'.id), _) = _
        rw [hflow', MemoryStore.has_iff_mem_ids.mpr hid]
      refine ⟨_, _, update_of_ok hloaded happly hstored,
        .inr (.inr ⟨hid, ?_, m.update flow', rfl, hids⟩)⟩
      -- the flow is still there when it is loaded for the reply
      show ∃ flow, found id (.ok ((m.update flow').get? id)) = .ok flow
      cases hagain : (m.update flow').get? id with
      | none => exact absurd (hids ▸ hid) (MemoryStore.get?_eq_none_iff.mp hagain)
      | some new => exact ⟨new, rfl⟩

/-- **What an execution leaves in memory** has the ids that there were. -/
theorem exists_memory_of_executed {w' : World} {id : String} {flow : Flow} {fin : Executor.Finished}
    (hm : w.store = .memory m) (h : w.Executed w' id flow fin) :
    ∃ m', w'.store = .memory m' ∧ m'.ids = m.ids := by
  have hentries := h.entries
  have hlist := h.replaces.list_eq
  have hflow := (Store.exists_tells_of_get h.replaces.get_self).1
  rw [hm] at hentries hlist
  cases hstore : w'.store with
  | rows s =>
    rw [hstore] at hentries
    exact nomatch hentries
  | memory m' =>
    refine ⟨m', rfl, ?_⟩
    rw [hstore] at hlist
    have hflows : m'.flows = m.flows.map fun f => if f.id = id then fin.flow else f :=
      Except.ok.inj hlist
    rw [MemoryStore.ids, hflows, List.map_map]
    -- the flow that stands in the place of another one has its id
    refine List.map_congr_left fun f _ => ?_
    show (if f.id = id then fin.flow else f).id = f.id
    split
    · next hf => exact hflow.trans hf.symm
    · rfl

/-- **To execute a flow** fails and changes nothing if the flow is not there; otherwise it has a
result, whatever comes of the run, and all ids stay as they are. -/
theorem execute_inMemory (x : Executor) (id : String) (ctx : Context)
    (hm : w.store = .memory m) (hids : m.ids.Nodup) :
    ∃ res w', World.run (execute x id ctx).run w = (res, w') ∧
      ((id ∉ m.ids ∧ res = .error (.flowNotFound id) ∧ w' = w) ∨
        (id ∈ m.ids ∧ (∃ fin, res = .ok fin) ∧
          ∃ m', w'.store = .memory m' ∧ m'.ids = m.ids)) := by
  by_cases hid : id ∈ m.ids
  · have htime := MemoryStore.keepsTime hids hm
    -- a store in memory keeps last runs of any kind, and takes records of any id
    have hready : w.Ready := ⟨by rw [hm]; trivial, by rw [hm]; trivial⟩
    rcases execute_alone x id ctx none htime.orderly htime.timed hready with
      ⟨fault, -, hnone⟩ | ⟨flow, fin, w', hrun, -, hexec⟩
    · -- what is in memory can be loaded
      rw [hm] at hnone
      cases hfind : m.get? id with
      | none => exact absurd hid (MemoryStore.get?_eq_none_iff.mp hfind)
      | some flow => exact absurd (congrArg Except.ok hfind) (hnone flow)
    · exact ⟨.ok fin, w', hrun, .inr ⟨hid, ⟨fin, rfl⟩, exists_memory_of_executed hm hexec⟩⟩
  · -- there is nothing to load
    have hget : ∀ n, Request.get id ≠ .wait n := nofun
    refine ⟨.error (.flowNotFound id), w, ?_, .inl ⟨hid, rfl, rfl⟩⟩
    rw [execute_run, World.run_ask hget]
    show World.run (resume x id ctx (w.store.get id)).run w = _
    rw [hm]
    show World.run (resume x id ctx (.ok (m.get? id))).run w = _
    rw [MemoryStore.get?_eq_none_iff.mpr hid]
    rfl

end Flows

end Flowgraph
