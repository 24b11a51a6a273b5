import Flowgraph.Proofs.Store.Row
import Flowgraph.Proofs.Store.Sound

/-!
# The lives of the stored flows

A store of either kind tells of each flow its id, its status and its last run, in the order in which
the flows were inserted (`Store.lives`).  The two kinds keep them differently, in memory as values
and in rows as texts; what a request does to them is the same (`World.lives_answer`): an insertion
adds a life at the end unless the id is taken, a new life replaces the old one in its place, a
deletion takes a life out, and nothing else touches them.

For this to hold a store has to be in order (`Store.Orderly`): no id occurs twice, and the tables
are there.  Every store that begins empty is, and every request keeps it so.
-/

namespace Flowgraph

/-- In a list whose members differ in a key, a member is the only one with its key. -/
theorem filter_key_eq {α : Type} (key : α → String) {l : List α} (hl : (l.map key).Nodup) {a : α}
    (ha : a ∈ l) : (l.filter fun b => key b == key a) = [a] := by
  induction l with
  | nil => exact absurd ha List.not_mem_nil
  | cons b rest ih =>
    rw [List.map_cons, List.nodup_cons] at hl
    have hne : ∀ c ∈ rest, key c ≠ key b := fun c hc hkey => hl.1 (List.mem_map.mpr ⟨c, hc, hkey⟩)
    rcases List.mem_cons.mp ha with rfl | ha
    · rw [List.filter_cons_of_pos (by simp), List.filter_eq_nil_iff.mpr]
      exact fun c hc => by simpa using hne c hc
    · rw [List.filter_cons_of_neg (by simpa using (hne a ha).symm), ih hl.2 ha]

/-! ### Lives -/

/-- **The life of a stored flow**, status and last run as a row holds them. -/
structure Life where
  id : String
  status : String
  lastRun : Option String
  deriving DecidableEq, Repr

namespace Life

/-- The life of a flow. -/
def ofFlow (f : Flow) : Life := ⟨f.id, f.status.text, f.lastRun.map Instant.rowText⟩

/-- The life that a row holds. -/
def ofRow (r : FlowRow) : Life := ⟨r.id, r.status, r.lastRun⟩

/-- The life with another status and last run, if it is that of a flow of this id. -/
def renew (id : String) (status : Status) (lastRun : Option Instant) (l : Life) : Life :=
  if l.id = id then ⟨id, status.text, lastRun.map Instant.rowText⟩ else l

/-- A life added at the end, unless its id is taken. -/
def addTo (lives : List Life) (l : Life) : List Life :=
  if l.id ∈ lives.map (·.id) then lives else lives ++ [l]

@[simp] theorem renew_id (id : String) (status : Status) (lastRun : Option Instant) (l : Life) :
    (l.renew id status lastRun).id = l.id := by
  unfold renew
  split
  · next h => exact h.symm
  · rfl

@[simp] theorem ofFlow_id (f : Flow) : (ofFlow f).id = f.id := rfl

@[simp] theorem ofRow_id (r : FlowRow) : (ofRow r).id = r.id := rfl

theorem renew_ofFlow (id : String) (status : Status) (lastRun : Option Instant) (f : Flow) :
    (ofFlow f).renew id status lastRun
      = ofFlow (if f.id = id then f.withLife status lastRun else f) := by
  unfold renew
  rw [ofFlow_id]
  split
  · next hid =>
    rw [← hid]
    rfl
  · rfl

theorem renew_ofRow (id : String) (status : Status) (lastRun : Option Instant) (r : FlowRow) :
    (ofRow r).renew id status lastRun
      = ofRow (if r.id = id then r.withLife status lastRun else r) := by
  unfold renew
  rw [ofRow_id]
  split
  · next hid =>
    rw [← hid]
    rfl
  · rfl

end Life

/-- **What a request does to the lives** in a store that is in order. -/
def Request.onLives : Request → List Life → List Life
  | .insert f, lives => Life.addTo lives (.ofFlow f)
  | .setLife id status lastRun, lives => lives.map (·.renew id status lastRun)
  | .delete id, lives => lives.filter (·.id != id)
  | _, lives => lives

namespace Store

/-- **The lives of the stored flows**, in order. -/
def lives : Store → List Life
  | memory s => s.flows.map .ofFlow
  | rows s => (s.flows.getD []).map .ofRow

/-- The tables of the store are there. -/
def HasTables : Store → Prop
  | memory _ => True
  | rows s => s.flows.isSome ∧ s.runs.isSome

/-- **A store is in order**: no id occurs twice, and the tables are there. -/
structure Orderly (s : Store) : Prop where
  ids_nodup : (s.lives.map (·.id)).Nodup
  hasTables : s.HasTables

theorem orderly_empty_memory : (memory .empty).Orderly := ⟨List.nodup_nil, trivial⟩

theorem orderly_empty_rows : (rows .empty).Orderly := ⟨List.nodup_nil, rfl, rfl⟩

end Store

/-! ### What a request does, in memory -/

namespace MemoryStore

variable {s : MemoryStore} {id : String} {status : Status} {lastRun : Option Instant}

theorem has_iff : s.has id = true ↔ id ∈ (Store.memory s).lives.map (·.id) := by
  simp only [has, List.any_eq_true, beq_iff_eq, Store.lives, List.map_map, List.mem_map,
    Function.comp_apply, Life.ofFlow_id]

/-- An update changes no life. -/
theorem lives_modify_update (f : Flow) (flows : List Flow) :
    (modify f.id (fun old => f.withLife old.status old.lastRun) flows).map Life.ofFlow
      = flows.map Life.ofFlow := by
  induction flows with
  | nil => rfl
  | cons g rest ih =>
    unfold modify
    split
    · next hid =>
      rw [List.map_cons, List.map_cons]
      have hlife : Life.ofFlow (f.withLife g.status g.lastRun) = Life.ofFlow g := by
        rw [Life.ofFlow, Life.ofFlow, hid]
        rfl
      rw [hlife]
    · rw [List.map_cons, List.map_cons, ih]

/-- Where no id occurs twice, to change the first flow of an id is to change every flow of it. -/
theorem modify_eq_map {change : Flow → Flow} {flows : List Flow}
    (hflows : (flows.map (·.id)).Nodup) :
    modify id change flows = flows.map fun f => if f.id = id then change f else f := by
  induction flows with
  | nil => rfl
  | cons g rest ih =>
    rw [List.map_cons, List.nodup_cons] at hflows
    unfold modify
    rw [List.map_cons]
    by_cases hid : g.id = id
    · -- behind the flow that is changed there is none of its id
      have hrest : ∀ f ∈ rest, (if f.id = id then change f else f) = f := by
        intro f hf
        have hne : f.id ≠ id := fun h => hflows.1 (List.mem_map.mpr ⟨f, hf, h.trans hid.symm⟩)
        rw [if_neg hne]
      rw [if_pos hid, if_pos hid, List.map_congr_left hrest, List.map_id']
    · rw [if_neg hid, if_neg hid, ih hflows.2]

theorem ids_lives (s : MemoryStore) :
    (Store.memory s).lives.map (·.id) = s.flows.map (·.id) := by
  rw [Store.lives, List.map_map]
  rfl

theorem lives_insert (s : MemoryStore) (f : Flow) :
    (Store.insert f (.memory s)).2.lives = Life.addTo (Store.memory s).lives (.ofFlow f) := by
  show (Store.settle .memory s (s.insert f)).2.lives = _
  unfold MemoryStore.insert Life.addTo
  rw [Life.ofFlow_id]
  by_cases htaken : s.has f.id = true
  · rw [if_pos htaken, if_pos (has_iff.mp htaken)]
    rfl
  · rw [if_neg htaken, if_neg fun h => htaken (has_iff.mpr h)]
    exact List.map_append

theorem lives_setLife (hs : ((Store.memory s).lives.map (·.id)).Nodup) :
    (Store.memory (s.setLife id status lastRun)).lives
      = (Store.memory s).lives.map (·.renew id status lastRun) := by
  rw [ids_lives] at hs
  show (modify id _ s.flows).map Life.ofFlow = (s.flows.map Life.ofFlow).map _
  rw [modify_eq_map hs, List.map_map, List.map_map]
  exact List.map_congr_left fun f _ => (Life.renew_ofFlow id status lastRun f).symm

theorem lives_delete (s : MemoryStore) (id : String) :
    (Store.memory (s.delete id)).lives = (Store.memory s).lives.filter (·.id != id) := by
  show (s.flows.filter _).map Life.ofFlow = (s.flows.map Life.ofFlow).filter _
  rw [List.filter_map]
  rfl

end MemoryStore

/-! ### What a request does, in rows -/

namespace RowStore

variable {s : RowStore} {rows : List FlowRow} {id : String}

theorem lives_of_flows (h : s.flows = some rows) :
    (Store.rows s).lives = rows.map Life.ofRow := by
  rw [Store.lives, h]
  rfl

theorem any_id_iff : (rows.any (·.id == id)) = true ↔ id ∈ (rows.map Life.ofRow).map (·.id) := by
  simp only [List.any_eq_true, beq_iff_eq, List.map_map, List.mem_map, Function.comp_apply,
    Life.ofRow_id]

theorem insert_of_flows (h : s.flows = some rows) (f : Flow) :
    s.insert f = if rows.any (·.id == f.id) then
        .error (.database (.notUnique (flowTable ++ ".id")))
      else .ok { s with flows := some (rows ++ [.ofFlow f]) } := by
  unfold insert flowRows
  rw [h]
  show (if _ then _ else _) = _
  split <;> rfl

theorem modify_of_flows (h : s.flows = some rows) (change : FlowRow → FlowRow) :
    s.modify id change = .ok (rows.any (·.id == id),
      { s with flows := some (rows.map fun r => if r.id == id then change r else r) }) := by
  unfold modify flowRows
  rw [h]
  rfl

theorem delete_of_flows (h : s.flows = some rows) :
    s.delete id = .ok (rows.any (·.id == id),
      { s with flows := some (rows.filter fun r => r.id != id) }) := by
  unfold delete flowRows
  rw [h]
  rfl

theorem append_of_runs {runs : List RunRow} (h : s.runs = some runs) (r : Record) :
    s.append r = if runs.any (·.runId == r.runId) then
        .error (.database (.notUnique (runTable ++ ".run_id")))
      else .ok { s with runs := some (runs ++ [.ofRecord r]) } := by
  unfold append runRows
  rw [h]
  show (if _ then _ else _) = _
  split <;> rfl

/-- **A flow that is loaded by its id** is read from the first row of that id. -/
theorem get_eq_some_iff {f : Flow} :
    s.get id = .ok (some f) ↔
      ∃ rows r, s.flows = some rows ∧ rows.find? (·.id == id) = some r ∧ r.toFlow = .ok f := by
  unfold get
  rw [bind_eq_ok_iff]
  simp only [flowRows_eq_ok_iff]
  constructor
  · rintro ⟨rows, hrows, h⟩
    cases hfind : rows.find? (·.id == id) with
    | none =>
      rw [hfind] at h
      exact nomatch h
    | some r =>
      rw [hfind] at h
      obtain ⟨g, hg, h⟩ := bind_eq_ok_iff.mp h
      obtain rfl := Option.some.inj (Except.ok.inj h)
      exact ⟨rows, r, hrows, hfind, hg⟩
  · rintro ⟨rows, r, hrows, hfind, hr⟩
    refine ⟨rows, hrows, ?_⟩
    rw [hfind]
    exact bind_eq_ok_iff.mpr ⟨f, hr, rfl⟩

theorem lives_insert (h : s.flows = some rows) (f : Flow) :
    (Store.insert f (.rows s)).2.lives = Life.addTo (Store.rows s).lives (.ofFlow f) := by
  show (Store.settle .rows s (s.insert f)).2.lives = _
  rw [insert_of_flows h, lives_of_flows h]
  unfold Life.addTo
  rw [Life.ofFlow_id]
  by_cases htaken : rows.any (·.id == f.id) = true
  · rw [if_pos htaken, if_pos (any_id_iff.mp htaken)]
    exact lives_of_flows h
  · rw [if_neg htaken, if_neg fun h => htaken (any_id_iff.mpr h)]
    exact List.map_append

/-- An update changes no life. -/
theorem lives_update (h : s.flows = some rows) (f : Flow) :
    (Store.update f (.rows s)).2.lives = (Store.rows s).lives := by
  show (Store.settleWith .rows s (s.update f)).2.lives = _
  unfold update
  rw [modify_of_flows h, lives_of_flows h]
  show (rows.map _).map Life.ofRow = rows.map Life.ofRow
  rw [List.map_map]
  refine List.map_congr_left fun r _ => ?_
  show Life.ofRow (if _ then _ else _) = Life.ofRow r
  split <;> rfl

/-- A new life is stored in the rows of its id, and the log stays as it is. -/
theorem exists_setLife (h : s.flows = some rows) (id : String) (status : Status)
    (lastRun : Option Instant) :
    ∃ s', Store.setLife id status lastRun (.rows s) = (.ok (), .rows s') ∧ s'.runs = s.runs ∧
      s'.flows = some (rows.map fun r => if r.id = id then r.withLife status lastRun else r) := by
  refine ⟨{ s with flows := some _ }, ?_, rfl, rfl⟩
  show Store.settle .rows s (s.setLife id status lastRun) = _
  unfold setLife
  rw [modify_of_flows h]
  simp only [beq_iff_eq]
  rfl

theorem lives_setLife (h : s.flows = some rows) (id : String) (status : Status)
    (lastRun : Option Instant) :
    (Store.setLife id status lastRun (.rows s)).2.lives
      = (Store.rows s).lives.map (·.renew id status lastRun) := by
  obtain ⟨s', hs', -, hflows⟩ := exists_setLife h id status lastRun
  rw [hs', lives_of_flows h, lives_of_flows hflows, List.map_map, List.map_map]
  exact List.map_congr_left fun r _ => (Life.renew_ofRow id status lastRun r).symm

theorem lives_delete (h : s.flows = some rows) (id : String) :
    (Store.delete id (.rows s)).2.lives = (Store.rows s).lives.filter (·.id != id) := by
  show (Store.settleWith .rows s (s.delete id)).2.lives = _
  rw [delete_of_flows h, lives_of_flows h]
  show (rows.filter _).map Life.ofRow = (rows.map Life.ofRow).filter _
  rw [List.filter_map]
  rfl

/-- The log is a table of its own. -/
theorem exists_append (s : RowStore) (r : Record) :
    ∃ s', (Store.append r (.rows s)).2 = .rows s' ∧ s'.flows = s.flows := by
  show ∃ s', (Store.settle .rows s (s.append r)).2 = .rows s' ∧ _
  cases happ : s.append r with
  | error e => exact ⟨s, rfl, rfl⟩
  | ok s' =>
    obtain ⟨runs, -, h⟩ := bind_eq_ok_iff.mp happ
    dsimp only at h
    split at h
    · exact nomatch h
    · obtain rfl := Except.ok.inj h
      exact ⟨_, rfl, rfl⟩

theorem lives_append (s : RowStore) (r : Record) :
    (Store.append r (.rows s)).2.lives = (Store.rows s).lives := by
  obtain ⟨s', hs', hflows⟩ := exists_append s r
  rw [hs', Store.lives, Store.lives, hflows]

end RowStore

/-! ### What a request does, in either kind of store -/

namespace Store

variable {s : Store}

theorem HasTables.exists_flows {s : RowStore} (hs : (rows s).HasTables) :
    ∃ table, s.flows = some table := Option.isSome_iff_exists.mp hs.1

theorem HasTables.exists_runs {s : RowStore} (hs : (rows s).HasTables) :
    ∃ table, s.runs = some table := Option.isSome_iff_exists.mp hs.2

theorem Orderly.lives_insert (hs : s.Orderly) (f : Flow) :
    (s.insert f).2.lives = Life.addTo s.lives (.ofFlow f) := by
  cases s with
  | memory m => exact MemoryStore.lives_insert m f
  | rows m =>
    obtain ⟨table, htable⟩ := hs.hasTables.exists_flows
    exact RowStore.lives_insert htable f

theorem Orderly.lives_update (hs : s.Orderly) (f : Flow) : (s.update f).2.lives = s.lives := by
  cases s with
  | memory m => exact MemoryStore.lives_modify_update f m.flows
  | rows m =>
    obtain ⟨table, htable⟩ := hs.hasTables.exists_flows
    exact RowStore.lives_update htable f

theorem Orderly.lives_setLife (hs : s.Orderly) (id : String) (status : Status)
    (lastRun : Option Instant) :
    (s.setLife id status lastRun).2.lives = s.lives.map (·.renew id status lastRun) := by
  cases s with
  | memory m => exact MemoryStore.lives_setLife hs.ids_nodup
  | rows m =>
    obtain ⟨table, htable⟩ := hs.hasTables.exists_flows
    exact RowStore.lives_setLife htable id status lastRun

/-- In a store in order a life is stored, or there is no flow to store it for. -/
theorem Orderly.setLife_took (hs : s.Orderly) (id : String) (status : Status)
    (lastRun : Option Instant) : (s.setLife id status lastRun).1 = .ok () := by
  cases s with
  | memory m => rfl
  | rows m =>
    obtain ⟨table, htable⟩ := hs.hasTables.exists_flows
    obtain ⟨m', hm', -⟩ := RowStore.exists_setLife htable id status lastRun
    rw [hm']

theorem Orderly.lives_delete (hs : s.Orderly) (id : String) :
    (s.delete id).2.lives = s.lives.filter (·.id != id) := by
  cases s with
  | memory m => exact MemoryStore.lives_delete m id
  | rows m =>
    obtain ⟨table, htable⟩ := hs.hasTables.exists_flows
    exact RowStore.lives_delete htable id

theorem lives_append (s : Store) (r : Record) : (s.append r).2.lives = s.lives := by
  cases s with
  | memory m => rfl
  | rows m => exact RowStore.lives_append m r

/-! ### What is loaded -/

end Store

/-- **A life is that of a flow**, as far as a row tells. -/
structure Life.Tells (l : Life) (f : Flow) : Prop where
  id : l.id = f.id
  status : l.status = f.status.text
  lastRun : l.lastRun.isSome = f.lastRun.isSome

theorem Life.tells_ofFlow (f : Flow) : (ofFlow f).Tells f := ⟨rfl, rfl, Option.isSome_map⟩

/-- A row holds the life of the flow that it is read as. -/
theorem Life.tells_of_toFlow {r : FlowRow} {f : Flow} (h : r.toFlow = .ok f) :
    (ofRow r).Tells f := by
  obtain ⟨⟨hid, -, -⟩, -, -, -, hstatus, -, hlast⟩ := FlowRow.toFlow_eq_ok_iff.mp h
  refine ⟨hid.symm, hstatus, ?_⟩
  have hsome := congrArg Option.isSome hlast
  rwa [Option.isSome_map, Option.isSome_map] at hsome

namespace Store

variable {s : Store}

/-- **A flow that is loaded by its id** has that id, and its life is among those stored. -/
theorem exists_tells_of_get {id : String} {f : Flow} (h : s.get id = .ok (some f)) :
    f.id = id ∧ ∃ l ∈ s.lives, l.Tells f := by
  cases s with
  | memory m =>
    have hfind : m.flows.find? (·.id == id) = some f := Except.ok.inj h
    have hid := List.find?_some (p := fun f : Flow => f.id == id) hfind
    exact ⟨beq_iff_eq.mp hid, .ofFlow f, List.mem_map_of_mem (List.mem_of_find?_eq_some hfind),
      Life.tells_ofFlow f⟩
  | rows m =>
    obtain ⟨table, r, htable, hfind, hr⟩ := RowStore.get_eq_some_iff.mp h
    have hid := List.find?_some (p := fun r : FlowRow => r.id == id) hfind
    have htells := Life.tells_of_toFlow hr
    refine ⟨htells.id.symm.trans (beq_iff_eq.mp hid), .ofRow r, ?_, htells⟩
    rw [RowStore.lives_of_flows htable]
    exact List.mem_map_of_mem (List.mem_of_find?_eq_some hfind)

/-- The life of every flow that is listed is among those stored. -/
theorem exists_tells_of_list {flows : List Flow} (h : s.list = .ok flows) :
    ∀ f ∈ flows, ∃ l ∈ s.lives, l.Tells f := by
  intro f hf
  cases s with
  | memory m =>
    obtain rfl := Except.ok.inj h
    exact ⟨.ofFlow f, List.mem_map_of_mem hf, Life.tells_ofFlow f⟩
  | rows m =>
    obtain ⟨table, htable, h⟩ := bind_eq_ok_iff.mp h
    obtain ⟨r, hr, hflow⟩ := exists_mem_of_mapM h f hf
    refine ⟨.ofRow r, ?_, Life.tells_of_toFlow hflow⟩
    rw [RowStore.lives_of_flows (RowStore.flowRows_eq_ok_iff.mp htable)]
    exact List.mem_map_of_mem hr

/-! ### Staying in order -/

theorem HasTables.settle {σ : Type} (kind : σ → Store) {old : σ} {new : Except Fault σ}
    (hold : (kind old).HasTables) (hnew : ∀ s, new = .ok s → (kind s).HasTables) :
    (settle kind old new).2.HasTables := by
  cases new with
  | ok s => exact hnew s rfl
  | error e => exact hold

/-- A change of the table of flows leaves the other one alone. -/
theorem HasTables.withFlows {m : RowStore} (hm : (rows m).HasTables) (table : List FlowRow) :
    (rows { m with flows := some table }).HasTables := ⟨rfl, hm.2⟩

theorem HasTables.insert (hs : s.HasTables) (f : Flow) : (s.insert f).2.HasTables := by
  cases s with
  | memory m => exact HasTables.settle memory trivial fun _ _ => trivial
  | rows m =>
    obtain ⟨table, htable⟩ := hs.exists_flows
    show (Store.settle .rows m (m.insert f)).2.HasTables
    rw [RowStore.insert_of_flows htable]
    split
    · exact hs
    · exact hs.withFlows _

theorem HasTables.update (hs : s.HasTables) (f : Flow) : (s.update f).2.HasTables := by
  cases s with
  | memory m => trivial
  | rows m =>
    obtain ⟨table, htable⟩ := hs.exists_flows
    show (Store.settleWith .rows m (m.update f)).2.HasTables
    unfold RowStore.update
    rw [RowStore.modify_of_flows htable]
    exact hs.withFlows _

theorem HasTables.setLife (hs : s.HasTables) (id : String) (status : Status)
    (lastRun : Option Instant) : (s.setLife id status lastRun).2.HasTables := by
  cases s with
  | memory m => trivial
  | rows m =>
    obtain ⟨table, htable⟩ := hs.exists_flows
    obtain ⟨m', hm', hruns, hflows⟩ := RowStore.exists_setLife htable id status lastRun
    rw [hm']
    exact ⟨by rw [hflows]; rfl, by rw [hruns]; exact hs.2⟩

theorem HasTables.delete (hs : s.HasTables) (id : String) : (s.delete id).2.HasTables := by
  cases s with
  | memory m => trivial
  | rows m =>
    obtain ⟨table, htable⟩ := hs.exists_flows
    show (Store.settleWith .rows m (m.delete id)).2.HasTables
    rw [RowStore.delete_of_flows htable]
    exact hs.withFlows _

theorem HasTables.append (hs : s.HasTables) (r : Record) : (s.append r).2.HasTables := by
  cases s with
  | memory m => trivial
  | rows m =>
    obtain ⟨runs, hruns⟩ := hs.exists_runs
    show (Store.settle .rows m (m.append r)).2.HasTables
    rw [RowStore.append_of_runs hruns]
    split
    · exact hs
    · exact ⟨hs.1, rfl⟩

end Store

/-- No id comes to occur twice. -/
theorem Request.nodup_onLives {lives : List Life} (h : (lives.map (·.id)).Nodup) (q : Request) :
    ((q.onLives lives).map (·.id)).Nodup := by
  cases q with
  | insert f =>
    show ((Life.addTo lives (.ofFlow f)).map (·.id)).Nodup
    unfold Life.addTo
    split
    · exact h
    · next hnew =>
      rw [List.map_append, List.map_singleton]
      refine List.nodup_append.mpr ⟨h, List.pairwise_singleton _ _, fun a ha b hb hab => ?_⟩
      exact hnew (List.mem_singleton.mp hb ▸ hab ▸ ha)
  | setLife id status lastRun =>
    show ((lives.map (·.renew id status lastRun)).map (·.id)).Nodup
    have hids : (lives.map (·.renew id status lastRun)).map (·.id) = lives.map (·.id) := by
      rw [List.map_map]
      exact List.map_congr_left fun l _ => l.renew_id id status lastRun
    rw [hids]
    exact h
  | delete id => exact h.sublist (List.filter_sublist.map _)
  | _ => exact h

/-- **Where a life comes from** that is there after a request: from a flow that has been inserted, or
from what has been stored for its id, or else it has been there before. -/
theorem Request.mem_onLives {q : Request} {lives : List Life} {l : Life}
    (h : l ∈ q.onLives lives) :
    (∃ f : Flow, q = .insert f ∧ l = .ofFlow f) ∨
      (∃ status lastRun, q = .setLife l.id status lastRun ∧ l.status = status.text ∧
        l.lastRun = lastRun.map Instant.rowText) ∨
      (l ∈ lives ∧ ∀ status lastRun, q ≠ .setLife l.id status lastRun) := by
  cases q with
  | insert f =>
    -- a new flow brings its life, unless its id is taken
    change l ∈ Life.addTo lives (.ofFlow f) at h
    unfold Life.addTo at h
    split at h
    · exact .inr (.inr ⟨h, nofun⟩)
    · rcases List.mem_append.mp h with h | h
      · exact .inr (.inr ⟨h, nofun⟩)
      · exact .inl ⟨f, rfl, List.mem_singleton.mp h⟩
  | setLife id status lastRun =>
    obtain ⟨old, hold, rfl⟩ := List.mem_map.mp h
    by_cases hid : old.id = id
    · -- this is a life that is replaced
      have hnew : old.renew id status lastRun
          = ⟨id, status.text, lastRun.map Instant.rowText⟩ := if_pos hid
      rw [hnew]
      exact .inr (.inl ⟨status, lastRun, rfl, rfl, rfl⟩)
    · have hsame : old.renew id status lastRun = old := if_neg hid
      rw [hsame]
      refine .inr (.inr ⟨hold, fun status' lastRun' heq => ?_⟩)
      obtain ⟨rfl, -, -⟩ := Request.setLife.inj heq
      exact hid rfl
  | delete id => exact .inr (.inr ⟨(List.mem_filter.mp h).1, nofun⟩)
  | _ => exact .inr (.inr ⟨h, nofun⟩)

namespace World

variable {w : World}

/-- **What a request does to the lives** of a store in order, whoever asks. -/
theorem lives_answer (hw : w.store.Orderly) (cancelled : Bool) (q : Request) :
    (w.answer cancelled q).2.store.lives = q.onLives w.store.lives := by
  cases q with
  | insert f => exact hw.lives_insert f
  | update f => exact hw.lives_update f
  | setLife id status lastRun => exact hw.lives_setLife id status lastRun
  | delete id => exact hw.lives_delete id
  | append r => exact w.store.lives_append r
  | _ => rfl

/-- The tables stay, whatever is asked. -/
theorem answer_hasTables (hw : w.store.HasTables) (cancelled : Bool) (q : Request) :
    (w.answer cancelled q).2.store.HasTables := by
  cases q with
  | insert f => exact hw.insert f
  | update f => exact hw.update f
  | setLife id status lastRun => exact hw.setLife id status lastRun
  | delete id => exact hw.delete id
  | append r => exact hw.append r
  | _ => exact hw

/-- **A store in order stays in order**, whatever is asked of it. -/
theorem answer_orderly (hw : w.store.Orderly) (cancelled : Bool) (q : Request) :
    (w.answer cancelled q).2.store.Orderly := by
  refine ⟨?_, answer_hasTables hw.hasTables cancelled q⟩
  rw [lives_answer hw]
  exact q.nodup_onLives hw.ids_nodup

end World

end Flowgraph
