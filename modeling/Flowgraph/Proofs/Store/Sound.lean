import Flowgraph.Session.World
import Flowgraph.Proofs.Graph.WellFormed

/-!
# Stores of well-formed graphs

A store is sound if every flow in it has a well-formed graph (`Store.Sound`); in a store of rows
that is to say that each row holds the text of such a graph.  A sound store stays sound as long as
what is put into it has a well-formed graph (`World.answer_sound`), and only flows with well-formed
graphs are loaded from it (`World.answer_loads`).
-/

namespace Flowgraph

/-! ### Stores in memory -/

namespace MemoryStore

/-- Every flow in memory has a well-formed graph. -/
def Sound (s : MemoryStore) : Prop := ∀ f ∈ s.flows, f.graph.WellFormed

variable {s s' : MemoryStore} {f : Flow}

theorem mem_modify {id : String} {change : Flow → Flow} {flows : List Flow}
    (h : f ∈ modify id change flows) : f ∈ flows ∨ ∃ old ∈ flows, f = change old := by
  induction flows with
  | nil => exact nomatch h
  | cons g rest ih =>
    unfold modify at h
    split at h
    · rcases List.mem_cons.mp h with rfl | h
      · exact .inr ⟨g, List.mem_cons_self .., rfl⟩
      · exact .inl (List.mem_cons_of_mem _ h)
    · rcases List.mem_cons.mp h with rfl | h
      · exact .inl (List.mem_cons_self ..)
      · rcases ih h with h | ⟨old, hold, rfl⟩
        · exact .inl (List.mem_cons_of_mem _ h)
        · exact .inr ⟨old, List.mem_cons_of_mem _ hold, rfl⟩

theorem Sound.insert (hs : s.Sound) (hf : f.graph.WellFormed) (h : s.insert f = .ok s') :
    s'.Sound := by
  unfold MemoryStore.insert at h
  split at h
  · exact nomatch h
  · obtain rfl := Except.ok.inj h
    intro g hg
    rcases List.mem_append.mp hg with hg | hg
    · exact hs g hg
    · exact List.mem_singleton.mp hg ▸ hf

theorem Sound.update (hs : s.Sound) (hf : f.graph.WellFormed) : (s.update f).Sound := by
  intro g hg
  rcases mem_modify hg with hg | ⟨old, -, rfl⟩
  · exact hs g hg
  · exact hf

theorem Sound.setLife (hs : s.Sound) (id : String) (status : Status) (lastRun : Option Instant) :
    (s.setLife id status lastRun).Sound := by
  intro g hg
  rcases mem_modify hg with hg | ⟨old, hold, rfl⟩
  · exact hs g hg
  · exact hs old hold

theorem Sound.delete (hs : s.Sound) (id : String) : (s.delete id).Sound :=
  fun g hg => hs g (List.mem_filter.mp hg).1

end MemoryStore

/-! ### Stores in rows -/

/-- **A row holds a graph** as its text. -/
structure FlowRow.Holds (r : FlowRow) (g : Graph) : Prop where
  nodes : r.nodes = FlowRow.listText (g.nodes.map Node.toJson)
  edges : r.edges = FlowRow.listText (g.edges.map Edge.toJson)

/-- A row is sound if it holds a well-formed graph. -/
def FlowRow.Sound (r : FlowRow) : Prop := ∃ g : Graph, g.WellFormed ∧ r.Holds g

theorem FlowRow.sound_ofFlow {f : Flow} (hf : f.graph.WellFormed) : (FlowRow.ofFlow f).Sound :=
  ⟨f.graph, hf, rfl, rfl⟩

/-- **What is read from a row has a well-formed graph**, whatever the row. -/
theorem FlowRow.wellFormed_of_toFlow {r : FlowRow} {f : Flow} (h : r.toFlow = .ok f) :
    f.graph.WellFormed := by
  -- of all that is read, it is the graph whose check matters
  obtain ⟨nodes, -, h⟩ := bind_eq_ok_iff.mp h
  obtain ⟨edges, -, h⟩ := bind_eq_ok_iff.mp h
  obtain ⟨g, hg, h⟩ := bind_eq_ok_iff.mp h
  obtain ⟨status, -, h⟩ := bind_eq_ok_iff.mp h
  obtain ⟨createdAt, -, h⟩ := bind_eq_ok_iff.mp h
  obtain ⟨lastRun, -, h⟩ := bind_eq_ok_iff.mp h
  obtain rfl := Except.ok.inj h
  obtain ⟨rfl, hw⟩ := Graph.validated_eq_ok_iff.mp (mapError_eq_ok_iff.mp hg)
  exact hw

namespace RowStore

/-- Every row of the table of flows holds a well-formed graph. -/
def Sound (s : RowStore) : Prop := ∀ rows, s.flows = some rows → ∀ r ∈ rows, r.Sound

variable {s s' : RowStore} {f : Flow} {id : String} {found : Bool}

theorem flowRows_eq_ok_iff {rows : List FlowRow} : s.flowRows = .ok rows ↔ s.flows = some rows := by
  unfold flowRows
  cases s.flows <;> simp

/-- A store with other rows is sound if these are. -/
theorem sound_of_rows {rows : List FlowRow} {runs : Option (List RunRow)}
    (h : ∀ r ∈ rows, r.Sound) : Sound ⟨some rows, runs⟩ := by
  rintro _ ⟨⟩
  exact h

theorem Sound.insert (hs : s.Sound) (hf : f.graph.WellFormed) (h : s.insert f = .ok s') :
    s'.Sound := by
  obtain ⟨rows, hrows, h⟩ := bind_eq_ok_iff.mp h
  rw [flowRows_eq_ok_iff] at hrows
  dsimp only at h
  split at h
  · exact nomatch h
  · obtain rfl := Except.ok.inj h
    refine sound_of_rows fun r hr => ?_
    rcases List.mem_append.mp hr with hr | hr
    · exact hs rows hrows r hr
    · exact List.mem_singleton.mp hr ▸ FlowRow.sound_ofFlow hf

/-- A change of rows keeps a store sound if it keeps each row sound. -/
theorem Sound.modify (hs : s.Sound) {change : FlowRow → FlowRow}
    (hc : ∀ r, r.Sound → (change r).Sound) (h : s.modify id change = .ok (found, s')) :
    s'.Sound := by
  obtain ⟨rows, hrows, h⟩ := bind_eq_ok_iff.mp h
  rw [flowRows_eq_ok_iff] at hrows
  obtain ⟨rfl, rfl⟩ := Prod.mk.inj (Except.ok.inj h)
  refine sound_of_rows fun r hr => ?_
  obtain ⟨old, hold, rfl⟩ := List.mem_map.mp hr
  have := hs rows hrows old hold
  split
  · exact hc old this
  · exact this

theorem Sound.update (hs : s.Sound) (hf : f.graph.WellFormed)
    (h : s.update f = .ok (found, s')) : s'.Sound :=
  hs.modify (fun _ _ => ⟨f.graph, hf, rfl, rfl⟩) h

theorem Sound.setLife (hs : s.Sound) {status : Status} {lastRun : Option Instant}
    (h : s.setLife id status lastRun = .ok s') : s'.Sound := by
  unfold RowStore.setLife at h
  -- whether a row was found does not matter
  cases hm : s.modify id fun r => r.withLife status lastRun with
  | error e => rw [hm] at h; exact nomatch h
  | ok changed =>
    rw [hm] at h
    obtain rfl := Except.ok.inj h
    -- the columns of the graph stay as they are
    refine hs.modify (fun r hr => ?_) hm
    obtain ⟨g, hg, hn, he⟩ := hr
    exact ⟨g, hg, hn, he⟩

theorem Sound.delete (hs : s.Sound) (h : s.delete id = .ok (found, s')) : s'.Sound := by
  obtain ⟨rows, hrows, h⟩ := bind_eq_ok_iff.mp h
  rw [flowRows_eq_ok_iff] at hrows
  obtain ⟨rfl, rfl⟩ := Prod.mk.inj (Except.ok.inj h)
  exact sound_of_rows fun r hr => hs rows hrows r (List.mem_filter.mp hr).1

/-- The log is a table of its own. -/
theorem Sound.append (hs : s.Sound) {r : Record} (h : s.append r = .ok s') : s'.Sound := by
  obtain ⟨rows, -, h⟩ := bind_eq_ok_iff.mp h
  dsimp only at h
  split at h
  · exact nomatch h
  · obtain rfl := Except.ok.inj h
    exact hs

theorem wellFormed_of_get (h : s.get id = .ok (some f)) : f.graph.WellFormed := by
  -- a row is checked when it is read, so the store need not be sound for this
  obtain ⟨rows, -, h⟩ := bind_eq_ok_iff.mp h
  cases hfind : rows.find? (·.id == id) with
  | none =>
    rw [hfind] at h
    exact nomatch h
  | some r =>
    rw [hfind] at h
    obtain ⟨g, hg, h⟩ := bind_eq_ok_iff.mp h
    obtain rfl := Option.some.inj (Except.ok.inj h)
    exact FlowRow.wellFormed_of_toFlow hg

theorem wellFormed_of_list {flows : List Flow} (h : s.list = .ok flows) :
    ∀ f ∈ flows, f.graph.WellFormed := by
  obtain ⟨rows, -, h⟩ := bind_eq_ok_iff.mp h
  intro f hf
  obtain ⟨r, -, hr⟩ := exists_mem_of_mapM h f hf
  exact FlowRow.wellFormed_of_toFlow hr

end RowStore

/-! ### Stores and worlds -/

/-- **Every flow in a store has a well-formed graph.** -/
def Store.Sound : Store → Prop
  | memory s => s.Sound
  | rows s => s.Sound

/-- What a request puts into the store has a well-formed graph. -/
def Request.StoresSound : Request → Prop
  | .insert flow | .update flow => flow.graph.WellFormed
  | _ => True

/-- What has been loaded by a request has a well-formed graph. -/
def Request.LoadsSound : (q : Request) → q.Answer → Prop
  | .get _, found => ∀ flow, found = .ok (some flow) → flow.graph.WellFormed
  | .list, found => ∀ flows, found = .ok flows → ∀ flow ∈ flows, flow.graph.WellFormed
  | _, _ => True

namespace Store

variable {s : Store}

/-- There is no graph in an empty store. -/
theorem sound_of_empty (hs : s = .memory .empty ∨ s = .rows .empty) : s.Sound := by
  rcases hs with rfl | rfl
  · exact nofun
  · exact RowStore.sound_of_rows nofun

theorem Sound.settle {σ : Type} (kind : σ → Store) {old : σ} {new : Except Fault σ}
    (hold : (kind old).Sound) (hnew : ∀ s, new = .ok s → (kind s).Sound) :
    (settle kind old new).2.Sound := by
  cases new with
  | ok s => exact hnew s rfl
  | error e => exact hold

theorem Sound.settleWith {σ α : Type} (kind : σ → Store) {old : σ} {new : Except Fault (α × σ)}
    (hold : (kind old).Sound) (hnew : ∀ a s, new = .ok (a, s) → (kind s).Sound) :
    (settleWith kind old new).2.Sound := by
  cases new with
  | ok p => exact hnew p.1 p.2 rfl
  | error e => exact hold

theorem Sound.insert (hs : s.Sound) {f : Flow} (hf : f.graph.WellFormed) :
    (s.insert f).2.Sound := by
  cases s with
  | memory m => exact settle memory hs fun _ h => MemoryStore.Sound.insert hs hf h
  | rows m => exact settle rows hs fun _ h => RowStore.Sound.insert hs hf h

theorem Sound.update (hs : s.Sound) {f : Flow} (hf : f.graph.WellFormed) :
    (s.update f).2.Sound := by
  cases s with
  | memory m => exact MemoryStore.Sound.update hs hf
  | rows m => exact settleWith rows hs fun _ _ h => RowStore.Sound.update hs hf h

theorem Sound.setLife (hs : s.Sound) (id : String) (status : Status) (lastRun : Option Instant) :
    (s.setLife id status lastRun).2.Sound := by
  cases s with
  | memory m => exact MemoryStore.Sound.setLife hs id status lastRun
  | rows m => exact settle rows hs fun _ h => RowStore.Sound.setLife hs h

theorem Sound.delete (hs : s.Sound) (id : String) : (s.delete id).2.Sound := by
  cases s with
  | memory m => exact MemoryStore.Sound.delete hs id
  | rows m => exact settleWith rows hs fun _ _ h => RowStore.Sound.delete hs h

theorem Sound.append (hs : s.Sound) (r : Record) : (s.append r).2.Sound := by
  cases s with
  | memory m => exact hs
  | rows m => exact settle rows hs fun _ h => RowStore.Sound.append hs h

theorem Sound.wellFormed_of_get (hs : s.Sound) {id : String} {f : Flow}
    (h : s.get id = .ok (some f)) : f.graph.WellFormed := by
  cases s with
  | memory m => exact hs f (List.mem_of_find?_eq_some (Except.ok.inj h))
  | rows m => exact RowStore.wellFormed_of_get h

theorem Sound.wellFormed_of_list (hs : s.Sound) {flows : List Flow} (h : s.list = .ok flows) :
    ∀ f ∈ flows, f.graph.WellFormed := by
  cases s with
  | memory m => exact Except.ok.inj h ▸ hs
  | rows m => exact RowStore.wellFormed_of_list h

end Store

namespace World

variable {w : World}

/-- **A sound store stays sound** if what is put into it is. -/
theorem answer_sound (hw : w.store.Sound) (cancelled : Bool) {q : Request} (hq : q.StoresSound) :
    (w.answer cancelled q).2.store.Sound := by
  cases q with
  | insert f => exact hw.insert hq
  | update f => exact hw.update hq
  | setLife id status lastRun => exact hw.setLife id status lastRun
  | delete id => exact hw.delete id
  | append r => exact hw.append r
  | _ => exact hw

/-- **Only well-formed graphs are loaded from a sound store.** -/
theorem answer_loads (hw : w.store.Sound) (cancelled : Bool) (q : Request) :
    q.LoadsSound (w.answer cancelled q).1 := by
  cases q with
  | get id => exact fun flow h => hw.wellFormed_of_get h
  | list => exact fun flows h => hw.wellFormed_of_list h
  | _ => trivial

end World

end Flowgraph
