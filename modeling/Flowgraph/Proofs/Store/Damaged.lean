import Mathlib.Data.List.Nodup
import Flowgraph.Proofs.Flow.Operations
import Flowgraph.Proofs.Session.Alone
import Flowgraph.Proofs.Store.InRows

/-!
# Damaged rows

Any text may stand in the columns of a row.  A row carries a flow (`FlowRow.Carries`) if its columns
are read as the parts of one, and otherwise there is a first column that is damaged
(`FlowRow.Damage`); that one is told.  So a damaged row is no flow to anybody.  It cannot be loaded,
nothing can be listed beside it, and an operation that is to begin with it ends there, with nothing
stored (`RowStore.refuses_damaged_rows`).
-/

namespace Flowgraph

/-- **The columns of a row that may be damaged**, and the graph that two of them form, in the order in
which they are read. -/
inductive Column where
  | nodes
  | edges
  | graph
  | status
  | createdAt
  | lastRun
  deriving DecidableEq, Repr

/-- The kind of fault that damage to a column is. -/
def Column.kind : Column → String
  | nodes | edges => "json"
  | graph => "malformed_graph"
  | status | createdAt | lastRun => "database"

namespace FlowRow

/-- The two columns of the graph decode, one list each. -/
structure Draws (r : FlowRow) (g : Graph) : Prop where
  nodes : readList Node.decoder r.nodes = .ok g.nodes
  edges : readList Edge.decoder r.edges = .ok g.edges

/-- **The flow that a row carries**, column by column. -/
structure Carries (r : FlowRow) (f : Flow) : Prop where
  id : f.id = r.id
  name : f.name = r.name
  description : f.description = r.description
  draws : r.Draws f.graph
  valid : f.validate = .ok ()
  status : r.status = f.status.text
  createdAt : Instant.read? r.createdAt = some f.createdAt
  lastRun : r.lastRun.map Instant.read? = f.lastRun.map some

/-- **The first damage to a row**: a column that is not read, while all those before it are. -/
inductive Damage (r : FlowRow) : Column → Fault → Prop
  | nodes {e : Fault} (h : readList Node.decoder r.nodes = .error e) : Damage r .nodes e
  | edges {ns : List Node} {e : Fault} (hnodes : readList Node.decoder r.nodes = .ok ns)
      (h : readList Edge.decoder r.edges = .error e) : Damage r .edges e
  | graph {g : Graph} {cause : GraphFault} (hg : r.Draws g) (h : g.validate = .error cause) :
      Damage r .graph (.malformedGraph cause)
  | status {g : Graph} (hg : r.Draws g) (hvalid : g.validate = .ok ())
      (h : ∀ s : Status, r.status ≠ s.text) :
      Damage r .status (.database (.unknownStatus r.status))
  | createdAt {g : Graph} {s : Status} (hg : r.Draws g) (hvalid : g.validate = .ok ())
      (hstatus : r.status = s.text) (h : Instant.read? r.createdAt = none) :
      Damage r .createdAt (.database (.badInstant r.createdAt))
  | lastRun {g : Graph} {s : Status} {t : Instant} {text : String} (hg : r.Draws g)
      (hvalid : g.validate = .ok ()) (hstatus : r.status = s.text)
      (hcreated : Instant.read? r.createdAt = some t) (hlast : r.lastRun = some text)
      (h : Instant.read? text = none) : Damage r .lastRun (.database (.badInstant text))

variable {r : FlowRow} {f : Flow} {g : Graph} {c : Column} {e : Fault}

/-! ### One row -/

theorem carries_iff_toFlow : r.Carries f ↔ r.toFlow = .ok f := by
  rw [toFlow_eq_ok_iff]
  constructor
  · intro h
    exact ⟨⟨h.id, h.name, h.description⟩, h.draws.nodes, h.draws.edges,
      Flow.validate_eq_ok_iff.mp h.valid, h.status, h.createdAt, h.lastRun⟩
  · rintro ⟨⟨hid, hname, hdescription⟩, hnodes, hedges, hw, hstatus, hcreated, hlast⟩
    exact ⟨hid, hname, hdescription, ⟨hnodes, hedges⟩, Flow.validate_eq_ok_iff.mpr hw, hstatus,
      hcreated, hlast⟩

/-- What is left of a row once its graph is read and checked. -/
theorem Draws.toFlow (hg : r.Draws g) : r.toFlow = (do
    let graph ← g.validated.mapError Fault.malformedGraph
    let status ← (Status.ofStored r.status).mapError Fault.database
    let createdAt ← readInstant r.createdAt
    let lastRun ← r.lastRun.mapM readInstant
    return ⟨r.id, r.name, r.description, graph, status, createdAt, lastRun⟩) := by
  unfold FlowRow.toFlow
  rw [hg.nodes, ok_bind, hg.edges, ok_bind]

theorem validated_of_valid (h : g.validate = .ok ()) :
    g.validated.mapError Fault.malformedGraph = .ok g :=
  mapError_eq_ok_iff.mpr (Graph.validated_eq_ok_iff.mpr ⟨rfl, Graph.validate_eq_ok_iff.mp h⟩)

theorem ofStored_of_text {text : String} {s : Status} (h : text = s.text) :
    (Status.ofStored text).mapError Fault.database = .ok s :=
  mapError_eq_ok_iff.mpr (Status.ofStored_eq_ok_iff.mpr h)

theorem ofStored_of_unknown {text : String} (h : ∀ s : Status, text ≠ s.text) :
    (Status.ofStored text).mapError Fault.database = .error (.database (.unknownStatus text)) := by
  cases hread : Status.ofStored text with
  | ok s => exact absurd (Status.ofStored_eq_ok_iff.mp hread) (h s)
  | error cause =>
    unfold Status.ofStored at hread
    split at hread
    · exact nomatch hread
    · obtain rfl := Except.error.inj hread
      rfl

theorem readInstant_of_none {text : String} (h : Instant.read? text = none) :
    readInstant text = .error (.database (.badInstant text)) := by
  unfold readInstant
  rw [h]

/-- Damage is told when the row is read. -/
theorem Damage.toFlow (h : r.Damage c e) : r.toFlow = .error e := by
  -- the columns before the damaged one are read as they are, and then the reader stops
  cases h with
  | nodes h =>
    unfold FlowRow.toFlow
    rw [h]
    rfl
  | edges hnodes h =>
    unfold FlowRow.toFlow
    rw [hnodes, ok_bind, h]
    rfl
  | graph hg h =>
    rw [hg.toFlow, Graph.validated, h]
    rfl
  | status hg hvalid h =>
    rw [hg.toFlow, validated_of_valid hvalid, ok_bind, ofStored_of_unknown h]
    rfl
  | createdAt hg hvalid hstatus h =>
    rw [hg.toFlow, validated_of_valid hvalid, ok_bind, ofStored_of_text hstatus, ok_bind,
      readInstant_of_none h]
    rfl
  | @lastRun g s t text hg hvalid hstatus hcreated hlast h =>
    have hread : r.lastRun.mapM readInstant = .error (.database (.badInstant text)) := by
      rw [hlast]
      show (readInstant text >>= fun t => .ok (some t)) = _
      rw [readInstant_of_none h]
      rfl
    rw [hg.toFlow, validated_of_valid hvalid, ok_bind, ofStored_of_text hstatus, ok_bind,
      readInstant_eq_ok_iff.mpr hcreated, ok_bind, hread]
    rfl

/-- **A row carries a flow, or it is damaged.** -/
theorem carries_or_damage (r : FlowRow) : (∃ f, r.Carries f) ∨ ∃ e, ∃ c, r.Damage c e := by
  -- column by column, in the order in which a row is read
  cases hnodes : readList Node.decoder r.nodes with
  | error e => exact .inr ⟨e, .nodes, .nodes hnodes⟩
  | ok ns =>
  cases hedges : readList Edge.decoder r.edges with
  | error e => exact .inr ⟨e, .edges, .edges hnodes hedges⟩
  | ok es =>
  have hg : r.Draws ⟨ns, es⟩ := ⟨hnodes, hedges⟩
  cases hvalid : Graph.validate ⟨ns, es⟩ with
  | error cause => exact .inr ⟨_, .graph, .graph hg hvalid⟩
  | ok _ =>
  by_cases hstatus : ∃ s : Status, r.status = s.text
  swap
  · exact .inr ⟨_, .status, .status hg hvalid (not_exists.mp hstatus)⟩
  obtain ⟨s, hstatus⟩ := hstatus
  cases hcreated : Instant.read? r.createdAt with
  | none => exact .inr ⟨_, .createdAt, .createdAt hg hvalid hstatus hcreated⟩
  | some t =>
  -- the flow is known but for its last run, and that may be left out
  have hvalid' : (⟨r.id, r.name, r.description, ⟨ns, es⟩, s, t, none⟩ : Flow).validate = .ok () :=
    Flow.validate_eq_ok_iff.mpr (Graph.validate_eq_ok_iff.mp hvalid)
  cases hlast : r.lastRun with
  | none =>
    exact .inl ⟨⟨r.id, r.name, r.description, ⟨ns, es⟩, s, t, none⟩,
      rfl, rfl, rfl, hg, hvalid', hstatus, hcreated, by rw [hlast]; rfl⟩
  | some text =>
    cases hread : Instant.read? text with
    | none => exact .inr ⟨_, .lastRun, .lastRun hg hvalid hstatus hcreated hlast hread⟩
    | some last =>
      exact .inl ⟨⟨r.id, r.name, r.description, ⟨ns, es⟩, s, t, some last⟩,
        rfl, rfl, rfl, hg, hvalid', hstatus, hcreated,
        by rw [hlast]; exact congrArg some hread⟩

/-- **What is read from a row** is the flow that it carries, or else the first damage. -/
theorem judges : Judges toFlow (fun r => ∃ f, r.Carries f) Carries fun r e => ∃ c, r.Damage c e where
  acceptable_or_offends := carries_or_damage
  accepts := fun _ ⟨f, hf⟩ => ⟨f, carries_iff_toFlow.mp hf, hf⟩
  refuses := fun _ _ ⟨_, h⟩ => h.toFlow

theorem kind_of_readList {α : Type} {d : Decoder α} {text : String}
    (h : readList d text = .error e) : e.kind = "json" := by
  obtain ⟨cause, -, rfl⟩ := mapError_eq_error_iff.mp h
  rfl

/-- **The kind of a fault tells where the damage is.** -/
theorem Damage.kind (h : r.Damage c e) : e.kind = c.kind := by
  cases h with
  | nodes h => exact kind_of_readList h
  | edges _ h => exact kind_of_readList h
  | _ => rfl

end FlowRow

/-! ### A table of rows -/

namespace RowStore

variable {m : RowStore} {table : List FlowRow} {r : FlowRow} {id : String} {e : Fault}

theorem get_of_flows (htable : m.flows = some table) (id : String) :
    m.get id = (table.find? (·.id == id)).mapM FlowRow.toFlow := by
  unfold get
  rw [flowRows_eq_ok_iff.mpr htable]
  rfl

theorem list_of_flows (htable : m.flows = some table) : m.list = table.mapM FlowRow.toFlow := by
  unfold list
  rw [flowRows_eq_ok_iff.mpr htable]
  rfl

/-- An id that no row has is that of no flow. -/
theorem get_of_absent (htable : m.flows = some table) (hid : id ∉ table.map (·.id)) :
    m.get id = .ok none := by
  have hfind : table.find? (·.id == id) = none := by
    refine List.find?_eq_none.mpr fun r hr hrid => hid ?_
    exact List.mem_map.mpr ⟨r, hr, beq_iff_eq.mp hrid⟩
  rw [get_of_flows htable, hfind]
  rfl

/-- A flow is loaded from the one row of its id. -/
theorem get_of_mem (htable : m.flows = some table) (hids : (table.map (·.id)).Nodup)
    (hr : r ∈ table) : m.get r.id = r.toFlow.map some := by
  have hfind : table.find? (·.id == r.id) = some r := by
    cases hfound : table.find? (·.id == r.id) with
    | none => exact absurd (beq_self_eq_true _) (List.find?_eq_none.mp hfound r hr)
    | some r' =>
      have hid := List.find?_some (p := fun r' : FlowRow => r'.id == r.id) hfound
      exact congrArg some (List.inj_on_of_nodup_map hids (List.mem_of_find?_eq_some hfound) hr
        (beq_iff_eq.mp hid))
  rw [get_of_flows htable, hfind]
  show (r.toFlow >>= fun f => .ok (some f)) = _
  cases r.toFlow <;> rfl

theorem get_of_mem_eq_some_iff (htable : m.flows = some table) (hids : (table.map (·.id)).Nodup)
    (hr : r ∈ table) {f : Flow} : m.get r.id = .ok (some f) ↔ r.Carries f := by
  rw [get_of_mem htable hids hr, map_eq_ok_iff, FlowRow.carries_iff_toFlow]
  constructor
  · rintro ⟨f', hf', h⟩
    rwa [← Option.some.inj h]
  · exact fun h => ⟨f, h, rfl⟩

theorem get_of_mem_eq_error_iff (htable : m.flows = some table) (hids : (table.map (·.id)).Nodup)
    (hr : r ∈ table) : m.get r.id = .error e ↔ ∃ c, r.Damage c e ∧ e.kind = c.kind := by
  have hread : r.toFlow.map some = .error e ↔ r.toFlow = .error e := by
    cases r.toFlow with
    | ok f => exact iff_of_false nofun nofun
    | error e' =>
      exact ⟨fun h => congrArg _ (Except.error.inj h), fun h => congrArg _ (Except.error.inj h)⟩
  rw [get_of_mem htable hids hr, hread, FlowRow.judges.eq_error_iff]
  constructor
  · rintro ⟨c, h⟩
    exact ⟨c, h, h.kind⟩
  · rintro ⟨c, h, -⟩
    exact ⟨c, h⟩

/-- A list fails by one row that carries no flow, and is otherwise what the rows carry. -/
theorem list_carries (htable : m.flows = some table) :
    ((∃ flows, m.list = .ok flows) ↔ ∀ r ∈ table, ∃ f, r.Carries f) ∧
      ∀ flows, m.list = .ok flows → List.Forall₂ FlowRow.Carries table flows := by
  rw [list_of_flows htable]
  refine ⟨⟨?_, FlowRow.judges.exists_mapM⟩, fun flows h => (FlowRow.judges.of_mapM h).2⟩
  rintro ⟨flows, h⟩
  exact (FlowRow.judges.of_mapM h).1

end RowStore

/-! ### Operations that begin with a damaged row -/

namespace World

variable {w : World} {id : String} {e : Fault}

/-- **An operation that begins with a flow that cannot be loaded** ends there, and leaves the world as
it was. -/
theorem runAlone_of_load {α : Type} {next : Except Fault (Option Flow) → Operation (Except Fault α)}
    (hfault : ∀ e, next (.error e) = .done (.error e))
    (hnone : next (.ok none) = .done (.error (.flowNotFound id)))
    (hload : Flows.found id (w.store.get id) = .error e) (cancelAt : Option Nat) :
    w.runAlone cancelAt (.ask (.get id) next) = (.error e, w) := by
  have hq : ∀ n, Request.get id ≠ .wait n := nofun
  rw [runAlone_ask hq]
  show runAlone cancelAt (next (w.store.get id)) w = _
  -- a flow that is not there is a fault of the operation, and the store tells the others
  match hget : w.store.get id with
  | .error e' =>
    rw [hget] at hload
    obtain rfl := Except.error.inj hload
    rw [hfault]
    rfl
  | .ok none =>
    rw [hget] at hload
    obtain rfl := Except.error.inj hload
    rw [hnone]
    rfl
  | .ok (some flow) =>
    rw [hget] at hload
    exact nomatch hload

theorem runAlone_execute_of_load (hload : Flows.found id (w.store.get id) = .error e)
    (cancelAt : Option Nat) (x : Executor) (ctx : Context) :
    w.runAlone cancelAt (Flows.execute x id ctx).run = (.error e, w) := by
  rw [Flows.execute_run]
  refine runAlone_of_load ?_ ?_ hload cancelAt
  · exact fun _ => rfl
  · rfl

theorem runAlone_update_of_load (hload : Flows.found id (w.store.get id) = .error e)
    (cancelAt : Option Nat) (u : Update) :
    w.runAlone cancelAt (Flows.update id u).run = (.error e, w) := by
  rw [Flows.update_run]
  refine runAlone_of_load ?_ ?_ hload cancelAt
  · exact fun _ => rfl
  · rfl

end World

namespace RowStore

variable {m : RowStore} {table : List FlowRow}

/-- **Damaged rows go no further than the store.**  From a table in which any text may stand, a flow is
loaded if its row carries it, and otherwise the first damage is told.  The flows are listed if each
of them can be loaded, in the order of their rows.  An execution or an update of a flow that cannot
be loaded fails with the very fault, and changes nothing at all. -/
theorem refuses_damaged_rows (htable : m.flows = some table) (hids : (table.map (·.id)).Nodup) :
    (∀ id, id ∉ table.map (·.id) → m.get id = .ok none) ∧
      (∀ r ∈ table, m.get r.id ≠ .ok none ∧
        (∀ f, m.get r.id = .ok (some f) ↔ r.Carries f) ∧
        ∀ e, m.get r.id = .error e ↔ ∃ c, r.Damage c e ∧ e.kind = c.kind) ∧
      ((∃ flows, m.list = .ok flows) ↔ ∀ r ∈ table, ∃ f, m.get r.id = .ok (some f)) ∧
      (∀ flows, m.list = .ok flows →
        List.Forall₂ (fun r f => m.get r.id = .ok (some f)) table flows) ∧
      ∀ (w : World) (id : String) (e : Fault) (cancelAt : Option Nat), w.store = .rows m →
        Flows.found id (m.get id) = .error e →
          (∀ x ctx, w.runAlone cancelAt (Flows.execute x id ctx).run = (.error e, w)) ∧
            ∀ u, w.runAlone cancelAt (Flows.update id u).run = (.error e, w) := by
  have hcarries : ∀ r ∈ table, ∀ f, m.get r.id = .ok (some f) ↔ r.Carries f :=
    fun r hr f => get_of_mem_eq_some_iff htable hids hr
  obtain ⟨hlists, hlisted⟩ := list_carries htable
  refine ⟨fun id => get_of_absent htable, fun r hr => ⟨?_, hcarries r hr, fun e => ?_⟩, ?_, ?_, ?_⟩
  · rw [get_of_mem htable hids hr]
    cases r.toFlow <;> exact nofun
  · exact get_of_mem_eq_error_iff htable hids hr
  · rw [hlists]
    exact forall₂_congr fun r hr => exists_congr fun f => (hcarries r hr f).symm
  · intro flows h
    -- a row that is compared with a flow is one of the table, so the flow is loaded from it
    have hpairs := (List.forall₂_and_left table flows).mpr ⟨fun _ hr => hr, hlisted flows h⟩
    exact hpairs.imp fun r f hpair => (hcarries r hpair.1 f).mpr hpair.2
  · intro w id e cancelAt hw hload
    have hstore : Flows.found id (w.store.get id) = .error e := by
      rw [hw]
      exact hload
    exact ⟨World.runAlone_execute_of_load hstore cancelAt,
      World.runAlone_update_of_load hstore cancelAt⟩

/-- A flow with nothing in it. -/
def bareFlow : Flow := .fresh "bare" "Bare" "" ⟨[], []⟩ ⟨0, 0⟩

/-- The row of a flow, and behind it one whose status is none of the four. -/
def halfTorn : RowStore :=
  ⟨some [.ofFlow bareFlow, { FlowRow.ofFlow bareFlow with id := "torn", status := "paused" }],
    some []⟩

/-- The torn row keeps the flow before it from being listed, but not from being loaded. -/
theorem refuses_damaged_rows_halfTorn :
    halfTorn.get "bare" = .ok (some bareFlow) ∧
      halfTorn.get "torn" = .error (.database (.unknownStatus "paused")) ∧
      (¬ ∃ flows, halfTorn.list = .ok flows) ∧
      ∀ x ctx, (World.start (.rows halfTorn) ⟨0, 0⟩).run (Flows.execute x "torn" ctx).run
        = (.error (.database (.unknownStatus "paused")), .start (.rows halfTorn) ⟨0, 0⟩) := by
  have hids : (List.map (·.id) [FlowRow.ofFlow bareFlow,
      { FlowRow.ofFlow bareFlow with id := "torn", status := "paused" }]).Nodup := by decide
  obtain ⟨-, hrows, hlist, -, hends⟩ := refuses_damaged_rows (m := halfTorn) rfl hids
  have hkept : bareFlow.Kept :=
    Flow.kept_of_writable (Graph.validate_eq_ok_iff.mp rfl) (by decide +kernel)
  have hbare := FlowRow.carries_iff_toFlow.mpr hkept
  have hunknown : ∀ s : Status, "paused" ≠ s.text := by
    intro s
    cases s <;> decide
  obtain ⟨-, hget, -⟩ := hrows (FlowRow.ofFlow bareFlow) (List.mem_cons_self ..)
  obtain ⟨-, htorn, hdamage⟩ := hrows _ (List.mem_cons_of_mem _ (List.mem_cons_self ..))
  -- the columns of the graph are the same in both rows
  have hfault : halfTorn.get "torn" = .error (.database (.unknownStatus "paused")) :=
    (hdamage _).mpr ⟨.status,
      .status ⟨hbare.draws.nodes, hbare.draws.edges⟩ (by rfl) hunknown, rfl⟩
  refine ⟨(hget bareFlow).mpr hbare, hfault, fun hlisted => ?_, fun x ctx => ?_⟩
  · obtain ⟨f, hf⟩ := hlist.mp hlisted _ (List.mem_cons_of_mem _ (List.mem_cons_self ..))
    exact nomatch hfault.symm.trans hf
  · exact (hends _ "torn" _ none rfl (by rw [hfault]; rfl)).1 x ctx

end RowStore

end Flowgraph
