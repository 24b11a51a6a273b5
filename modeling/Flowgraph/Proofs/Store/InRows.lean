import Flowgraph.Proofs.Graph.Data
import Flowgraph.Proofs.Run.Data
import Flowgraph.Proofs.Store.Replaced

/-!
# A store in memory as a store in rows

Each flow and each record in memory has its row, so a store in memory can be written as one in rows
(`MemoryStore.inRows`).  What is read from such a store is what is in memory, if each row is read back
as the flow or the record that it was written from and no two flows have one id; such a store is fit
for rows (`MemoryStore.Fit`).

To do something in memory and to write the store in rows is the same as to write the store in rows and
to do it there, as long as what is put in is fit for rows (`Request.Fits`).  The two differ in the text
of the fault when an id is taken already, and in that a record is read back with what is written as
`null` left out.
-/

namespace Flowgraph

/-! ### Flows and records that are read back -/

/-- **A graph whose lists of nodes and edges are read back from their texts.** -/
structure Graph.Writable (g : Graph) : Prop where
  nodes : (Json.arr (g.nodes.map Node.toJson)).Faithful
  edges : (Json.arr (g.edges.map Edge.toJson)).Faithful

/-- **What a request puts into rows is readable there**: each value from its text, and each instant
is legible. -/
def Request.Writable : Request → Prop
  | .insert f => f.graph.Writable ∧ f.createdAt.Legible ∧ ∀ t ∈ f.lastRun, t.Legible
  | .update f => f.graph.Writable
  | .setLife _ _ lastRun => ∀ t ∈ lastRun, t.Legible
  | .append r => r.toJson.Faithful ∧ r.startedAt.Legible ∧ ∀ t ∈ r.completedAt, t.Legible
  | _ => True

instance Instant.decidableLegible : DecidablePred Instant.Legible := fun t =>
  decidable_of_iff (0 ≤ t.date.year ∧ t.date.year ≤ 9999 ∧ t.nanos < 2 * second ∧
      (second ≤ t.nanos → t.seconds % 60 = 59))
    ⟨fun ⟨h0, h1, h2, h3⟩ => ⟨h0, h1, h2, h3⟩, fun ⟨h0, h1, h2, h3⟩ => ⟨h0, h1, h2, h3⟩⟩

instance Graph.decidableWritable : DecidablePred Graph.Writable := fun g =>
  decidable_of_iff ((Json.arr (g.nodes.map Node.toJson)).Faithful ∧
      (Json.arr (g.edges.map Edge.toJson)).Faithful)
    ⟨fun ⟨hn, he⟩ => ⟨hn, he⟩, fun ⟨hn, he⟩ => ⟨hn, he⟩⟩

instance Request.decidableWritable : DecidablePred Request.Writable
  | .insert f => inferInstanceAs
      (Decidable (f.graph.Writable ∧ f.createdAt.Legible ∧ ∀ t ∈ f.lastRun, t.Legible))
  | .update f => inferInstanceAs (Decidable f.graph.Writable)
  | .setLife _ _ lastRun => inferInstanceAs (Decidable (∀ t ∈ lastRun, t.Legible))
  | .append r => inferInstanceAs
      (Decidable (r.toJson.Faithful ∧ r.startedAt.Legible ∧ ∀ t ∈ r.completedAt, t.Legible))
  | .get _ | .list | .delete _ | .records _ | .publish _ | .clock | .freshFlowId | .freshRunId
  | .isCancelled | .wait _ => .isTrue trivial

/-- A flow that is read back from its row. -/
def Flow.Kept (f : Flow) : Prop := (FlowRow.ofFlow f).toFlow = .ok f

/-- A record that is read back from its row, as far as its data goes. -/
def Record.Kept (r : Record) : Prop := (RunRow.ofRecord r).toRecord = .ok r.asRead

theorem FlowRow.readList_listText {α : Type} {d : Decoder α} {toJson : α → Json} {as : List α}
    (htext : (Json.arr (as.map toJson)).Faithful)
    (h : ∀ a ∈ as, d (Tree.ofJson (toJson a)) = .ok a) :
    readList d (listText (as.map toJson)) = .ok as := by
  have hlist : Decoder.list d (Tree.ofJson (.arr (as.map toJson))) = .ok (as.map fun a => a) :=
    Decoder.list_ofJson h
  rw [List.map_id'] at hlist
  rw [readList, listText, htext.ofText hlist]
  rfl

theorem Graph.Writable.readList_nodes {g : Graph} (hg : g.Writable) :
    FlowRow.readList Node.decoder (FlowRow.listText (g.nodes.map Node.toJson)) = .ok g.nodes := by
  have hsorted := Json.sorted_arr_iff.mp hg.nodes.1
  exact FlowRow.readList_listText hg.nodes fun n hn =>
    Node.decoder_ofJson (hsorted n.toJson (List.mem_map_of_mem hn))

theorem Graph.Writable.readList_edges {g : Graph} (hg : g.Writable) :
    FlowRow.readList Edge.decoder (FlowRow.listText (g.edges.map Edge.toJson)) = .ok g.edges :=
  FlowRow.readList_listText hg.edges fun e _ => e.decoder_ofJson

/-- **A flow with a well-formed graph is read back** if it can be written. -/
theorem Flow.kept_of_writable {f : Flow} (hw : f.graph.WellFormed)
    (h : (Request.insert f).Writable) : f.Kept := by
  obtain ⟨hgraph, hcreated, hlast⟩ := h
  exact FlowRow.toFlow_eq_ok_iff.mpr ⟨⟨rfl, rfl, rfl⟩, hgraph.readList_nodes,
    hgraph.readList_edges, hw, rfl, Instant.read?_rowText hcreated,
    Instant.map_read?_rowText hlast⟩

/-- A flow that is kept is kept with another life. -/
theorem Flow.Kept.withLife {f : Flow} (hf : f.Kept) {status : Status} {lastRun : Option Instant}
    (hlast : ∀ t ∈ lastRun, t.Legible) : (f.withLife status lastRun).Kept :=
  FlowRow.toFlow_withLife hf hlast

/-- A flow that is kept is kept with another definition. -/
theorem Flow.Kept.redefined {old f : Flow} (hold : old.Kept) (hw : f.graph.WellFormed)
    (hg : f.graph.Writable) (hcreated : f.createdAt = old.createdAt) :
    (f.withLife old.status old.lastRun).Kept := by
  obtain ⟨-, -, -, -, hstatus, hread, hlast⟩ := FlowRow.toFlow_eq_ok_iff.mp hold
  refine FlowRow.toFlow_eq_ok_iff.mpr ⟨⟨rfl, rfl, rfl⟩, hg.readList_nodes, hg.readList_edges, hw,
    hstatus, ?_, hlast⟩
  show Instant.read? f.createdAt.rowText = some f.createdAt
  -- the instant of creation is that of the stored flow, which has been read back already
  rw [hcreated]
  exact hread

/-- **A record that is readable in a row**: its data is read back from its text, and its instants are
possible. -/
structure Record.Readable (r : Record) : Prop where
  data : r.toJson.Faithful
  started : r.startedAt.Possible
  completed : ∀ t ∈ r.completedAt, t.Possible

instance Instant.decidablePossible : DecidablePred Instant.Possible := fun t =>
  decidable_of_iff (yearInRange t.date.year ∧ t.nanos < 2 * second ∧
      (second ≤ t.nanos → t.seconds % 60 = 59))
    ⟨fun ⟨h0, h1, h2⟩ => ⟨h0, h1, h2⟩, fun ⟨h0, h1, h2⟩ => ⟨h0, h1, h2⟩⟩

instance Record.decidableReadable : DecidablePred Record.Readable := fun r =>
  decidable_of_iff (r.toJson.Faithful ∧ r.startedAt.Possible ∧ ∀ t ∈ r.completedAt, t.Possible)
    ⟨fun ⟨h0, h1, h2⟩ => ⟨h0, h1, h2⟩, fun ⟨h0, h1, h2⟩ => ⟨h0, h1, h2⟩⟩

/-- **A readable record is read back**, as far as its data goes. -/
theorem Record.Readable.kept {r : Record} (h : r.Readable) : r.Kept := by
  have hread := Record.decoder_ofJson h.data.1 h.started h.completed
  show (Record.decoder.ofText r.toJson.compact).mapError Fault.ofDecode = _
  rw [h.data.ofText hread]
  rfl

/-- A record is read back if it can be written. -/
theorem Record.kept_of_writable {r : Record} (h : (Request.append r).Writable) : r.Kept :=
  Readable.kept ⟨h.1, h.2.1.possible, fun t ht => (h.2.2 t ht).possible⟩

/-! ### Stores that are fit for rows -/

/-- **A store in memory that is fit for rows.** -/
structure MemoryStore.Fit (m : MemoryStore) : Prop where
  ids : (m.flows.map (·.id)).Nodup
  flows : ∀ f ∈ m.flows, f.Kept
  records : ∀ r ∈ m.records, r.Kept

/-- **A request puts nothing into a store but what is fit for rows.**  An update brings the instant of
creation with it, which is that of the flow as it is stored; a record comes under an id of its own. -/
def Request.Fits (m : MemoryStore) : Request → Prop
  | .insert f => f.Kept
  | .update f => f.graph.WellFormed ∧ f.graph.Writable ∧
      ∀ old ∈ m.flows, old.id = f.id → f.createdAt = old.createdAt
  | .setLife _ _ lastRun => ∀ t ∈ lastRun, t.Legible
  | .append r => r.Kept ∧ r.runId ∉ m.records.map (·.runId)
  | _ => True

/-- What is read from the rows of records that are kept is what was written. -/
theorem RunRow.mapM_toRecord {records : List Record} (h : ∀ r ∈ records, r.Kept) :
    (records.map ofRecord).mapM toRecord = .ok (records.map Record.asRead) := by
  induction records with
  | nil => rfl
  | cons r rest ih =>
    rw [List.map_cons, List.mapM_cons, h r (List.mem_cons_self ..),
      ih fun r' hr' => h r' (List.mem_cons_of_mem _ hr')]
    rfl

/-- **The records of a flow are found in their order**, if the log holds records that are kept. -/
theorem RowStore.recordsOf_of_kept {s : RowStore} {records : List Record}
    (hs : s.runs = some (records.map .ofRecord)) (h : ∀ r ∈ records, r.Kept)
    (flow : Option String) : s.recordsOf flow
      = .ok ((records.filter fun r => flow.all (r.flowId == ·)).map Record.asRead) := by
  have hrows : s.runRows = .ok (records.map .ofRecord) := by
    unfold runRows
    rw [hs]
  unfold RowStore.recordsOf
  rw [hrows]
  show ((records.map RunRow.ofRecord).filter _).mapM RunRow.toRecord = _
  rw [List.filter_map]
  exact RunRow.mapM_toRecord fun r hr => h r (List.mem_filter.mp hr).1

namespace MemoryStore

variable {m : MemoryStore} {f : Flow} {r : Record} {id : String}

/-- **The store in rows.** -/
def inRows (m : MemoryStore) : RowStore :=
  ⟨some (m.flows.map .ofFlow), some (m.records.map .ofRecord)⟩

theorem fit_empty : empty.Fit := ⟨List.nodup_nil, nofun, nofun⟩

theorem any_inRows (m : MemoryStore) (id : String) :
    (m.flows.map FlowRow.ofFlow).any (·.id == id) = m.has id := by
  rw [List.any_map]
  rfl

/-- What is read from the rows that have been written is what was written. -/
theorem mapM_toFlow {flows : List Flow} (h : ∀ f ∈ flows, f.Kept) :
    (flows.map FlowRow.ofFlow).mapM FlowRow.toFlow = .ok flows := by
  induction flows with
  | nil => rfl
  | cons f rest ih =>
    rw [List.map_cons, List.mapM_cons, h f (List.mem_cons_self ..),
      ih fun f' hf' => h f' (List.mem_cons_of_mem _ hf')]
    rfl

/-! ### Loading -/

theorem Fit.get (hm : m.Fit) (id : String) : m.inRows.get id = .ok (m.get? id) := by
  show ((m.flows.map FlowRow.ofFlow).find? _).mapM FlowRow.toFlow = .ok (m.flows.find? _)
  rw [List.find?_map]
  show ((m.flows.find? (·.id == id)).map FlowRow.ofFlow).mapM FlowRow.toFlow = _
  cases hfound : m.flows.find? (·.id == id) with
  | none => rfl
  | some f =>
    show (FlowRow.ofFlow f).toFlow >>= (fun f => .ok (some f)) = _
    rw [hm.flows f (List.mem_of_find?_eq_some hfound)]
    rfl

theorem Fit.list (hm : m.Fit) : m.inRows.list = .ok m.flows := mapM_toFlow hm.flows

/-- The records of a flow are found in the rows, in their order. -/
theorem Fit.recordsOf (hm : m.Fit) (flow : Option String) :
    m.inRows.recordsOf flow = .ok ((m.recordsOf flow).map Record.asRead) := by
  have hpicked : m.records.filter (fun r => flow.all (r.flowId == ·)) = m.recordsOf flow := by
    cases flow with
    | none => exact List.filter_true m.records
    | some id => rfl
  rw [← hpicked]
  exact RowStore.recordsOf_of_kept rfl hm.records flow

/-! ### Changing -/

/-- A flow with a new id is added in both. -/
theorem insert_inRows (h : m.has f.id = false) :
    m.inRows.insert f = .ok { m with flows := m.flows ++ [f] }.inRows := by
  rw [RowStore.insert_of_flows rfl, any_inRows, h]
  simp [inRows]

/-- A flow whose id is taken is added in neither. -/
theorem insert_inRows_taken (h : m.has f.id = true) :
    m.inRows.insert f = .error (.database (.notUnique (RowStore.flowTable ++ ".id"))) := by
  rw [RowStore.insert_of_flows rfl, any_inRows, h]
  rfl

theorem Fit.insert (hm : m.Fit) (hf : f.Kept) (h : m.has f.id = false) :
    { m with flows := m.flows ++ [f] }.Fit where
  ids := by
    rw [List.map_append, List.nodup_append]
    refine ⟨hm.ids, List.nodup_singleton _, ?_⟩
    rintro id hid _ hf rfl
    obtain rfl := List.mem_singleton.mp hf
    obtain ⟨g, hg, hid⟩ := List.mem_map.mp hid
    have htaken : m.has f.id = true := List.any_eq_true.mpr ⟨g, hg, by simpa using hid⟩
    rw [h] at htaken
    exact nomatch htaken
  flows g hg := by
    rcases List.mem_append.mp hg with hg | hg
    · exact hm.flows g hg
    · exact List.mem_singleton.mp hg ▸ hf
  records := hm.records

/-- **To change the flow of an id is to change its row**, if each change is written as the other. -/
theorem Fit.modify_inRows (hm : m.Fit) {change : Flow → Flow} {changeRow : FlowRow → FlowRow}
    (hc : ∀ f ∈ m.flows, f.id = id → changeRow (.ofFlow f) = .ofFlow (change f)) :
    m.inRows.modify id changeRow
      = .ok (m.has id, { m with flows := modify id change m.flows }.inRows) := by
  rw [RowStore.modify_of_flows rfl, any_inRows]
  show Except.ok (_, RowStore.mk (some ((m.flows.map FlowRow.ofFlow).map _)) _)
    = .ok (_, RowStore.mk (some ((modify id change m.flows).map FlowRow.ofFlow)) _)
  -- in rows every row of the id is changed, in memory the first flow, but ids are unique
  rw [modify_eq_map hm.ids, List.map_map, List.map_map]
  have hrows : m.flows.map ((fun r => if r.id == id then changeRow r else r) ∘ FlowRow.ofFlow)
      = m.flows.map (FlowRow.ofFlow ∘ fun f => if f.id = id then change f else f) := by
    refine List.map_congr_left fun f hf => ?_
    show (if f.id == id then _ else _) = FlowRow.ofFlow (if f.id = id then change f else f)
    by_cases hid : f.id = id
    · rw [if_pos (beq_iff_eq.mpr hid), if_pos hid, hc f hf hid]
    · rw [if_neg (by simpa using hid), if_neg hid]
  rw [hrows]
  rfl

/-- A change that keeps the ids of flows and keeps each flow keeps a store fit. -/
theorem Fit.modify (hm : m.Fit) {change : Flow → Flow}
    (hid : ∀ f ∈ m.flows, f.id = id → (change f).id = id)
    (hc : ∀ f ∈ m.flows, f.id = id → (change f).Kept) :
    { m with flows := modify id change m.flows }.Fit where
  ids := by
    show ((MemoryStore.modify id change m.flows).map (·.id)).Nodup
    -- the change may not touch the id, so the ids are what they were
    have hsame : m.flows.map ((·.id) ∘ fun f => if f.id = id then change f else f)
        = m.flows.map (·.id) := by
      refine List.map_congr_left fun f hf => ?_
      show (if f.id = id then change f else f).id = f.id
      split
      · next h => rw [hid f hf h, h]
      · rfl
    rw [modify_eq_map hm.ids, List.map_map, hsame]
    exact hm.ids
  flows f hf := by
    change f ∈ MemoryStore.modify id change m.flows at hf
    rw [modify_eq_map hm.ids] at hf
    obtain ⟨old, hold, rfl⟩ := List.mem_map.mp hf
    split
    · next h => exact hc old hold h
    · exact hm.flows old hold
  records := hm.records

/-- An update that brings the stored instant of creation changes both alike. -/
theorem Fit.update_inRows (hm : m.Fit)
    (hcreated : ∀ old ∈ m.flows, old.id = f.id → f.createdAt = old.createdAt) :
    m.inRows.update f = .ok (m.has f.id, (m.update f).inRows) := by
  refine hm.modify_inRows fun old hold hid => ?_
  -- the row keeps its instant of creation, the flow in memory takes the one that it is given
  show FlowRow.mk old.id _ _ _ _ _ old.createdAt.rowText _
    = FlowRow.mk f.id _ _ _ _ _ f.createdAt.rowText _
  rw [hid, hcreated old hold hid]
  rfl

theorem Fit.update (hm : m.Fit) (h : (Request.update f).Fits m) : (m.update f).Fit :=
  hm.modify (fun _ _ _ => rfl) fun old hold hid =>
    (hm.flows old hold).redefined h.1 h.2.1 (h.2.2 old hold hid)

theorem Fit.setLife_inRows (hm : m.Fit) (id : String) (status : Status)
    (lastRun : Option Instant) :
    m.inRows.setLife id status lastRun = .ok (m.setLife id status lastRun).inRows := by
  have hrows : m.inRows.modify id (fun r => r.withLife status lastRun)
      = .ok (m.has id, (m.setLife id status lastRun).inRows) :=
    hm.modify_inRows fun _ _ _ => rfl
  rw [RowStore.setLife, hrows]
  rfl

theorem Fit.setLife (hm : m.Fit) (id : String) (status : Status) {lastRun : Option Instant}
    (hlast : ∀ t ∈ lastRun, t.Legible) : (m.setLife id status lastRun).Fit :=
  hm.modify (fun _ _ hid => hid) fun old hold _ => (hm.flows old hold).withLife hlast

theorem delete_inRows (m : MemoryStore) (id : String) :
    m.inRows.delete id = .ok (m.has id, (m.delete id).inRows) := by
  rw [RowStore.delete_of_flows rfl, any_inRows]
  show Except.ok (_, RowStore.mk (some ((m.flows.map FlowRow.ofFlow).filter _)) _)
    = .ok (_, RowStore.mk (some ((m.flows.filter _).map FlowRow.ofFlow)) _)
  rw [List.filter_map]
  rfl

theorem Fit.delete (hm : m.Fit) (id : String) : (m.delete id).Fit where
  ids := hm.ids.sublist (List.filter_sublist.map _)
  flows f hf := hm.flows f (List.mem_filter.mp hf).1
  records := hm.records

theorem append_inRows (h : r.runId ∉ m.records.map (·.runId)) :
    m.inRows.append r = .ok (m.append r).inRows := by
  have hfree : (m.records.map RunRow.ofRecord).any (·.runId == r.runId) = false := by
    rw [List.any_map, List.any_eq_false]
    intro old hold htaken
    exact h (List.mem_map.mpr ⟨old, hold, beq_iff_eq.mp htaken⟩)
  rw [RowStore.append_of_runs rfl, hfree]
  simp [inRows, append]

theorem Fit.append (hm : m.Fit) (hr : r.Kept) : (m.append r).Fit where
  ids := hm.ids
  flows := hm.flows
  records old hold := by
    rcases List.mem_append.mp hold with hold | hold
    · exact hm.records old hold
    · exact List.mem_singleton.mp hold ▸ hr

end MemoryStore

end Flowgraph
