import Mathlib.Data.List.Nodup
import Flowgraph.Proofs.Store.Lives
import Flowgraph.Proofs.Time.Text

/-!
# One flow among the others

What is seen of a store are the flows that are loaded by their ids, and their list.
`Store.Replaces s s' id flow` says that all that has changed in what is seen is one flow, which is now
`flow`, in the place that it had.  To add a record does nothing to what is seen
(`Store.seen_append`).

A last run that is stored is read back in memory, and in rows if it is legible (`Store.ReadsBack`).
One that has been loaded always is, as long as last runs are only ever stored as texts of instants
(`Store.readsBack_of_get`).
-/

namespace Flowgraph

/-! ### Rows -/

/-- The row with another life is read as the flow with that life. -/
theorem FlowRow.toFlow_withLife {r : FlowRow} {f : Flow} (h : r.toFlow = .ok f) {status : Status}
    {lastRun : Option Instant} (hlast : ∀ t ∈ lastRun, t.Legible) :
    (r.withLife status lastRun).toFlow = .ok (f.withLife status lastRun) := by
  obtain ⟨hnames, hnodes, hedges, hw, -, hcreated, -⟩ := toFlow_eq_ok_iff.mp h
  exact toFlow_eq_ok_iff.mpr ⟨hnames, hnodes, hedges, hw, rfl, hcreated,
    Instant.map_read?_rowText hlast⟩

/-- A row whose last run is the text of an instant has a legible last run, if it has one that is
read. -/
theorem FlowRow.legible_of_toFlow {r : FlowRow} {f : Flow} (h : r.toFlow = .ok f)
    {t₀ : Option Instant} (ht : r.lastRun = t₀.map Instant.rowText) :
    ∀ t ∈ f.lastRun, t.Legible := by
  obtain ⟨-, -, -, -, -, -, hlast⟩ := toFlow_eq_ok_iff.mp h
  intro t hf
  rw [ht, hf, Option.map_map] at hlast
  obtain ⟨t₁, -, hread⟩ := Option.map_eq_some_iff.mp hlast
  exact Instant.legible_of_read? hread

/-- A life whose last run is the text of an instant, if there is one. -/
def Life.IsTimed (l : Life) : Prop := ∃ t : Option Instant, l.lastRun = t.map Instant.rowText

/-- Last runs are stored as texts of instants. -/
theorem Request.isTimed_onLives {lives : List Life} (h : ∀ l ∈ lives, l.IsTimed) (q : Request) :
    ∀ l ∈ q.onLives lives, l.IsTimed := by
  intro l hl
  rcases Request.mem_onLives hl with ⟨f, -, rfl⟩ | ⟨-, lastRun, -, -, htext⟩ | ⟨hold, -⟩
  · exact ⟨f.lastRun, rfl⟩
  · exact ⟨lastRun, htext⟩
  · exact h l hold

/-! ### What is seen of a store -/

namespace Store

variable {s s' s'' : Store} {id : String} {flow flow' : Flow}

/-- **One flow has been replaced**, and nothing else has changed in what is seen of a store. -/
structure Replaces (s s' : Store) (id : String) (flow : Flow) : Prop where
  get_self : s'.get id = .ok (some flow)
  get_other : ∀ other, other ≠ id → s'.get other = s.get other
  list_eq : s'.list = s.list.map (·.map fun f => if f.id = id then flow else f)

/-- A listed flow of an id is the one that is loaded by it. -/
theorem Orderly.eq_of_list (hs : s.Orderly) (hget : s.get id = .ok (some flow)) {flows : List Flow}
    (hlist : s.list = .ok flows) : ∀ f ∈ flows, f.id = id → f = flow := by
  intro f hf hid
  have hids := hs.ids_nodup
  cases s with
  | memory m =>
    rw [MemoryStore.ids_lives] at hids
    -- the one that is loaded is listed, and no other flow that is listed has its id
    obtain rfl := Except.ok.inj hlist
    have hfind : m.flows.find? (·.id == id) = some flow := Except.ok.inj hget
    have hflow := List.find?_some (p := fun f : Flow => f.id == id) hfind
    exact List.inj_on_of_nodup_map hids hf (List.mem_of_find?_eq_some hfind)
      (hid.trans (beq_iff_eq.mp hflow).symm)
  | rows m =>
    obtain ⟨table, r, htable, hfind, hr⟩ := RowStore.get_eq_some_iff.mp hget
    rw [RowStore.lives_of_flows htable, List.map_map] at hids
    -- the two are read from rows of one id, and so from one row
    obtain ⟨table', htable', hlist⟩ := bind_eq_ok_iff.mp hlist
    obtain rfl : table = table' :=
      Option.some.inj (htable.symm.trans (RowStore.flowRows_eq_ok_iff.mp htable'))
    obtain ⟨r', hr', hf'⟩ := exists_mem_of_mapM hlist f hf
    have hrid := List.find?_some (p := fun r : FlowRow => r.id == id) hfind
    have hrow : r' = r := by
      refine List.inj_on_of_nodup_map hids hr' (List.mem_of_find?_eq_some hfind) ?_
      show r'.id = r.id
      exact (Life.tells_of_toFlow hf').id.trans (hid.trans (beq_iff_eq.mp hrid).symm)
    rw [hrow, hr] at hf'
    exact (Except.ok.inj hf').symm

/-- A flow is replaced by itself where nothing has changed. -/
theorem Orderly.replaces_self (hs : s.Orderly) (hget : s.get id = .ok (some flow))
    (hget' : ∀ other, s'.get other = s.get other) (hlist' : s'.list = s.list) :
    s.Replaces s' id flow := by
  refine ⟨(hget' id).trans hget, fun other _ => hget' other, ?_⟩
  rw [hlist']
  cases hlist : s.list with
  | error e => rfl
  | ok flows =>
    have hsame : ∀ f ∈ flows, (if f.id = id then flow else f) = f := by
      intro f hf
      split
      · next hid => exact (hs.eq_of_list hget hlist f hf hid).symm
      · rfl
    show Except.ok flows = .ok (flows.map _)
    rw [List.map_congr_left hsame, List.map_id']

theorem Replaces.trans (h : s.Replaces s' id flow) (h' : s'.Replaces s'' id flow') :
    s.Replaces s'' id flow' := by
  refine ⟨h'.get_self, fun other ho => (h'.get_other other ho).trans (h.get_other other ho), ?_⟩
  have hid : flow.id = id := (exists_tells_of_get h.get_self).1
  rw [h'.list_eq, h.list_eq]
  cases s.list with
  | error e => rfl
  | ok flows =>
    show Except.ok ((flows.map _).map _) = .ok (flows.map _)
    rw [List.map_map]
    refine congrArg _ (List.map_congr_left fun f _ => ?_)
    show (if (if f.id = id then flow else f).id = id then flow' else _) = _
    -- the flow that was put in first has the id too, so it is replaced in its turn
    by_cases hf : f.id = id
    · rw [if_pos hf, if_pos hid, if_pos hf]
    · rw [if_neg hf, if_neg hf]

/-! ### One among others -/

/-- To look for another id is not to find the flow that has changed. -/
theorem find?_map_ne {α : Type} (key : α → String) (change : α → α) {id other : String}
    (hother : other ≠ id) (hkey : ∀ a, key a = id → key (change a) = id) (l : List α) :
    (l.map fun a => if key a = id then change a else a).find? (key · == other)
      = l.find? (key · == other) := by
  induction l with
  | nil => rfl
  | cons a rest ih =>
    rw [List.map_cons]
    by_cases hid : key a = id
    · have hne : key a ≠ other := fun h => hother (h.symm.trans hid)
      have hne' : key (change a) ≠ other := fun h => hother (h.symm.trans (hkey a hid))
      rw [if_pos hid, List.find?_cons_of_neg (by simpa using hne'),
        List.find?_cons_of_neg (by simpa using hne), ih]
    · rw [if_neg hid]
      by_cases hfound : key a = other
      · rw [List.find?_cons_of_pos (by simpa using hfound),
          List.find?_cons_of_pos (by simpa using hfound)]
      · rw [List.find?_cons_of_neg (by simpa using hfound),
          List.find?_cons_of_neg (by simpa using hfound), ih]

/-- To look for the id is to find the flow changed. -/
theorem find?_map_self {α : Type} (key : α → String) (change : α → α) {id : String}
    (hkey : ∀ a, key a = id → key (change a) = id) (l : List α) :
    (l.map fun a => if key a = id then change a else a).find? (key · == id)
      = (l.find? (key · == id)).map change := by
  induction l with
  | nil => rfl
  | cons a rest ih =>
    rw [List.map_cons]
    by_cases hid : key a = id
    · rw [if_pos hid, List.find?_cons_of_pos (by simpa using hkey a hid),
        List.find?_cons_of_pos (by simpa using hid)]
      rfl
    · rw [if_neg hid, List.find?_cons_of_neg (by simpa using hid),
        List.find?_cons_of_neg (by simpa using hid), ih]

/-- A last run is read back as it was stored: in memory any is, and in rows a legible one. -/
def ReadsBack (s : Store) (lastRun : Option Instant) : Prop :=
  match s with
  | memory _ => True
  | rows _ => ∀ t ∈ lastRun, t.Legible

theorem Orderly.readsBack_setLife (hs : s.Orderly) (id : String) (status : Status)
    (lastRun : Option Instant) {t : Option Instant} (ht : s.ReadsBack t) :
    (s.setLife id status lastRun).2.ReadsBack t := by
  cases s with
  | memory m => trivial
  | rows m =>
    obtain ⟨table, htable⟩ := hs.hasTables.exists_flows
    obtain ⟨m', hm', -⟩ := RowStore.exists_setLife htable id status lastRun
    rw [hm']
    exact ht

theorem readsBack_append (r : Record) {t : Option Instant} (ht : s.ReadsBack t) :
    (s.append r).2.ReadsBack t := by
  cases s with
  | memory m => trivial
  | rows m =>
    obtain ⟨m', hm', -⟩ := RowStore.exists_append m r
    rw [hm']
    exact ht

/-- **A last run that has been loaded is read back**, where each was stored as the text of an
instant. -/
theorem readsBack_of_get (hs : ∀ l ∈ s.lives, l.IsTimed) (hget : s.get id = .ok (some flow)) :
    s.ReadsBack flow.lastRun := by
  cases s with
  | memory m => trivial
  | rows m =>
    obtain ⟨table, r, htable, hfind, hr⟩ := RowStore.get_eq_some_iff.mp hget
    have hmem : Life.ofRow r ∈ (rows m).lives := by
      rw [RowStore.lives_of_flows htable]
      exact List.mem_map_of_mem (List.mem_of_find?_eq_some hfind)
    obtain ⟨t₀, ht₀⟩ := hs _ hmem
    exact FlowRow.legible_of_toFlow hr ht₀

/-! ### The log -/

/-- **What is in the log**, records in memory and rows otherwise. -/
def entries : Store → List Record ⊕ List RunRow
  | memory m => .inl m.records
  | rows m => .inr (m.runs.getD [])

/-- **A log with one more record** behind the others. -/
def withRecord (r : Record) : List Record ⊕ List RunRow → List Record ⊕ List RunRow
  | .inl records => .inl (records ++ [r])
  | .inr runs => .inr (runs ++ [.ofRecord r])

/-- No row of the log has this id.  A log in memory does not ask. -/
def Lacks (s : Store) (runId : String) : Prop :=
  match s.entries with
  | .inl _ => True
  | .inr runs => ∀ r ∈ runs, r.runId ≠ runId

/-- What is seen of the flows is as before when a record has been added. -/
theorem seen_append (s : Store) (r : Record) :
    (∀ id, (s.append r).2.get id = s.get id) ∧ (s.append r).2.list = s.list := by
  cases s with
  | memory m => exact ⟨fun _ => rfl, rfl⟩
  | rows m =>
    obtain ⟨m', hm', hflows⟩ := RowStore.exists_append m r
    rw [hm']
    have hrows : m'.flowRows = m.flowRows := by
      unfold RowStore.flowRows
      rw [hflows]
    constructor
    · intro id
      show m'.get id = m.get id
      unfold RowStore.get
      rw [hrows]
    · show m'.list = m.list
      unfold RowStore.list
      rw [hrows]

/-- **A record is added to the log** of a store that has none of its id. -/
theorem HasTables.entries_append (hs : s.HasTables) {r : Record} (hnew : s.Lacks r.runId) :
    (s.append r).2.entries = withRecord r s.entries := by
  cases s with
  | memory m => rfl
  | rows m =>
    obtain ⟨runs, hruns⟩ := hs.exists_runs
    have hentries : (rows m).entries = .inr runs := by rw [entries, hruns]; rfl
    have hfree : ¬ (runs.any (·.runId == r.runId)) = true := by
      intro htaken
      obtain ⟨row, hrow, hid⟩ := List.any_eq_true.mp htaken
      unfold Lacks at hnew
      rw [hentries] at hnew
      exact hnew row hrow (beq_iff_eq.mp hid)
    rw [hentries]
    show (Store.settle .rows m (m.append r)).2.entries = _
    rw [RowStore.append_of_runs hruns, if_neg hfree]
    rfl

/-- To store a life is nothing to the log. -/
theorem HasTables.entries_setLife (hs : s.HasTables) (id : String) (status : Status)
    (lastRun : Option Instant) : (s.setLife id status lastRun).2.entries = s.entries := by
  cases s with
  | memory m => rfl
  | rows m =>
    obtain ⟨table, htable⟩ := hs.exists_flows
    obtain ⟨m', hm', hruns, -⟩ := RowStore.exists_setLife htable id status lastRun
    rw [hm', entries, entries, hruns]

end Store

end Flowgraph
