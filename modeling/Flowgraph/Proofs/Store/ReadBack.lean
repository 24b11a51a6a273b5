import Flowgraph.Proofs.Json.Members
import Flowgraph.Proofs.Store.Damaged
import Flowgraph.Proofs.Store.Log

/-!
# Flows are read back from their rows

A flow that has been decoded and checked is stored in a row under a new id, and stays there as it is
until somebody changes its definition or its life, or deletes it (`World.slot_answers`).  Whether it is
read back is a matter of its years.  The text of an instant in a row has a sign before a year that is
not one of four digits, and a signed year is not read.  An instant of such a year may well be decoded,
be it with a sign or since the offset leads over the end of the year 9999 or the beginning of the
year 0.

So a flow with plain years is loaded as it was stored, and is in every list that there is.  One with
another year cannot be loaded, and as long as it is stored nothing can be listed
(`World.insert_reads_back`).
-/

namespace Flowgraph

/-! ### Instants that are decoded -/

namespace Instant

/-- A year of four digits, which is written without a sign. -/
def PlainYear (t : Instant) : Prop := 0 ≤ t.date.year ∧ t.date.year ≤ 9999

instance decidablePlainYear : DecidablePred PlainYear := fun t =>
  inferInstanceAs (Decidable (0 ≤ t.date.year ∧ t.date.year ≤ 9999))

variable {t : Instant}

theorem Possible.legible (h : t.Possible) (hyear : t.PlainYear) : t.Legible :=
  ⟨hyear.1, hyear.2, h.nanos_lt, h.leap⟩

theorem read?_rowText_eq_none (h : ¬ t.PlainYear) : read? t.rowText = none := by
  refine read?_rowText_of_year ?_
  unfold PlainYear at h
  omega

theorem possible_of_decoder {tree : Tree} (h : decoder tree = .ok t) : t.Possible := by
  cases tree with
  | str s =>
    unfold decoder at h
    dsimp only at h
    cases hread : readLoosely? s with
    | none =>
      rw [hread] at h
      exact nomatch h
    | some t' =>
      rw [hread] at h
      obtain rfl := Except.ok.inj h
      exact possible_of_readLoosely? hread
  | _ => exact nomatch h

theorem possible_of_optional {tree : Tree} {last : Option Instant}
    (h : Decoder.optional decoder tree = .ok last) : ∀ u ∈ last, u.Possible := by
  unfold Decoder.optional at h
  split at h
  · obtain rfl := Except.ok.inj h
    rintro _ ⟨⟩
  · obtain ⟨t, ht, rfl⟩ := map_eq_ok_iff.mp h
    intro u hu
    obtain rfl := Option.some.inj hu
    exact possible_of_decoder ht

end Instant

/-! ### A flow and its row -/

namespace Flow

/-- The instants of a flow. -/
def instants (f : Flow) : List Instant := f.createdAt :: f.lastRun.toList

theorem possible_of_decoder {tree : Tree} {f : Flow} (h : decoder tree = .ok f) :
    ∀ t ∈ f.instants, t.Possible := by
  have hdecoded : (∃ t, Instant.decoder t = .ok f.createdAt) ∧
      ((∃ t, Decoder.optional Instant.decoder t = .ok f.lastRun) ∨ f.lastRun = none) := by
    obtain ⟨⟨id, name, description, nodes, edges, status, createdAt, lastRun, _⟩, hrow, rfl⟩ :=
      map_eq_ok_iff.mp h
    obtain ⟨-, -, -, -, -, -, hcreated, hlast, -⟩ := Decoder.decoded_of_record hrow
    obtain ⟨t, -, ht⟩ := hcreated.resolve_right nofun
    exact ⟨⟨t, ht⟩, hlast.imp (fun ⟨t, _, ht⟩ => ⟨t, ht⟩) fun h => (Option.some.inj h).symm⟩
  obtain ⟨⟨_, hcreated⟩, hlast⟩ := hdecoded
  refine List.forall_mem_cons.mpr ⟨Instant.possible_of_decoder hcreated, fun t ht => ?_⟩
  rcases hlast with ⟨_, hlast⟩ | hnone
  · exact Instant.possible_of_optional hlast t (Option.mem_toList.mp ht)
  · rw [hnone] at ht
    exact nomatch ht

variable {f : Flow}

/-- A flow with plain years is read back from its row. -/
theorem toFlow_ofFlow (hw : f.graph.WellFormed) (hg : f.graph.Writable)
    (hpossible : ∀ t ∈ f.instants, t.Possible) (hyears : ∀ t ∈ f.instants, t.PlainYear) :
    (FlowRow.ofFlow f).toFlow = .ok f := by
  have hlegible : ∀ t ∈ f.instants, t.Legible := fun t ht => (hpossible t ht).legible (hyears t ht)
  obtain ⟨hcreated, hlast⟩ := List.forall_mem_cons.mp hlegible
  refine kept_of_writable hw ⟨hg, hcreated, fun t ht => hlast t ?_⟩
  exact Option.mem_toList.mpr ht

/-- **Another year damages the row**, first that of the creation. -/
theorem exists_damage_ofFlow (hw : f.graph.WellFormed) (hg : f.graph.Writable)
    (hpossible : ∀ t ∈ f.instants, t.Possible) (hyears : ¬ ∀ t ∈ f.instants, t.PlainYear) :
    ∃ t ∈ f.instants, ¬ t.PlainYear ∧
      ∃ c, (FlowRow.ofFlow f).Damage c (.database (.badInstant t.rowText)) := by
  have hdraws : (FlowRow.ofFlow f).Draws f.graph := ⟨hg.readList_nodes, hg.readList_edges⟩
  have hvalid := Graph.validate_eq_ok_iff.mpr hw
  by_cases hcreated : f.createdAt.PlainYear
  · -- the instant of creation is read, so it is the last run
    obtain ⟨t, ht, hyear⟩ : ∃ t ∈ f.lastRun.toList, ¬ t.PlainYear := by
      by_contra hnone
      push Not at hnone
      exact hyears (List.forall_mem_cons.mpr ⟨hcreated, hnone⟩)
    have hlast : f.lastRun = some t := Option.mem_toList.mp ht
    have hread := Instant.read?_rowText
      ((hpossible f.createdAt (List.mem_cons_self ..)).legible hcreated)
    refine ⟨t, List.mem_cons_of_mem _ ht, hyear, .lastRun, ?_⟩
    exact .lastRun hdraws hvalid rfl hread (by rw [FlowRow.ofFlow, hlast]; rfl)
      (Instant.read?_rowText_eq_none hyear)
  · exact ⟨f.createdAt, List.mem_cons_self .., hcreated, .createdAt,
      .createdAt hdraws hvalid rfl (Instant.read?_rowText_eq_none hcreated)⟩

end Flow

/-! ### What is seen of one slot among the others -/

namespace Store

variable {s : Store} {id : String} {x : Slot}

theorem HasTables.get_of_slot (hs : s.HasTables) (hx : s.slot id = some x) :
    s.get id = x.read.map some := by
  rw [hs.get_eq, ← slot_eq_find?, hx]
  show (x.read >>= fun f => .ok (some f)) = _
  cases x.read <;> rfl

/-- A list has the flows of the slots, so it has their ids. -/
theorem ids_of_slots {slots : List Slot} {flows : List Flow}
    (h : List.Forall₂ (fun x f => x.read = .ok f) slots flows) :
    flows.map (·.id) = slots.map (·.id) := by
  induction h with
  | nil => rfl
  | cons hread _ ih => exact congrArg₂ List.cons (Slot.id_of_read hread) ih

/-- **There is a list if every slot is read**, and it has what is read from each of them once. -/
theorem Orderly.list_of_slot (hs : s.Orderly) (hx : s.slot id = some x) :
    ((∃ flows, s.list = .ok flows) ↔
        (∃ f, x.read = .ok f) ∧ ∀ y ∈ s.slots, y.id ≠ id → ∃ g, y.read = .ok g) ∧
      ∀ flows, s.list = .ok flows → ∀ f, x.read = .ok f →
        flows.filter (fun g => g.id == id) = [f] := by
  obtain ⟨hmem, hxid⟩ := mem_slots_of_slot hx
  have hjudges := Judges.self Slot.read
  rw [hs.hasTables.list_eq]
  refine ⟨⟨?_, fun ⟨hread, hothers⟩ => hjudges.exists_mapM fun y hy => ?_⟩, fun flows h f hf => ?_⟩
  · rintro ⟨flows, h⟩
    obtain ⟨hall, -⟩ := hjudges.of_mapM h
    exact ⟨hall x hmem, fun y hy _ => hall y hy⟩
  · by_cases hyid : y.id = id
    · rw [hs.eq_of_slot hx y hy hyid]
      exact hread
    · exact hothers y hy hyid
  · obtain ⟨-, hflows⟩ := hjudges.of_mapM h
    -- ids occur once, so what is read from the slot is all that the list has under its id
    have hids : (flows.map (·.id)).Nodup := by
      rw [ids_of_slots hflows, ids_slots]
      exact hs.ids_nodup
    obtain ⟨g, hg, hread⟩ := exists_mem_of_forall₂ hflows hmem
    obtain rfl := Except.ok.inj (hf.symm.trans hread)
    have hfid : f.id = id := (Slot.id_of_read hf).trans hxid
    rw [← hfid]
    exact filter_key_eq Flow.id hids hg

/-- **A new flow is put into its row** behind the others. -/
theorem insert_of_rows {m : RowStore} (hs : (rows m).HasTables) {f : Flow}
    (hnew : (rows m).slot f.id = none) :
    ((rows m).insert f).1 = .ok () ∧ ((rows m).insert f).2.slot f.id = some (.row (.ofFlow f)) := by
  obtain ⟨table, htable⟩ := hs.exists_flows
  rw [slot_of_flows htable, Option.map_eq_none_iff] at hnew
  have hfree : table.any (·.id == f.id) = false := by
    refine Bool.eq_false_iff.mpr fun hany => ?_
    obtain ⟨r, hr, hid⟩ := List.any_eq_true.mp hany
    exact List.find?_eq_none.mp hnew r hr hid
  have hrow : [FlowRow.ofFlow f].find? (·.id == f.id) = some (.ofFlow f) :=
    List.find?_cons_of_pos (beq_self_eq_true f.id)
  show (settle rows m (m.insert f)).1 = _ ∧ (settle rows m (m.insert f)).2.slot f.id = _
  rw [RowStore.insert_of_flows htable, hfree]
  refine ⟨rfl, ?_⟩
  show (rows { m with flows := some (table ++ [.ofFlow f]) }).slot f.id = _
  rw [slot_of_flows rfl, List.find?_append, hnew, Option.none_or, hrow]
  rfl

end Store

/-! ### Until it is changed -/

/-- A request that neither updates the flow of an id, nor stores a life for it, nor deletes it. -/
def Request.Spares (id : String) : Request → Prop
  | .update f => f.id ≠ id
  | .setLife other _ _ => other ≠ id
  | .delete other => other ≠ id
  | _ => True

theorem Request.Spares.onSlot {q : Request} {id : String} (hq : q.Spares id) (x : Slot) :
    q.onSlot id x = x := by
  cases q with
  | update f => exact if_neg hq
  | setLife other status lastRun => exact if_neg hq
  | _ => rfl

namespace World

variable {w : World} {id : String} {x : Slot} {f : Flow}

/-- **A slot that is spared stays**, in a store that stays in order. -/
theorem slot_answers (hw : w.store.Orderly) (hx : w.store.slot id = some x)
    {requests : List Request} (hrequests : ∀ q ∈ requests, q.Spares id) :
    (w.answers requests).store.Orderly ∧ (w.answers requests).store.slot id = some x := by
  induction requests generalizing w with
  | nil => exact ⟨hw, hx⟩
  | cons q rest ih =>
    have hq := hrequests q (List.mem_cons_self ..)
    have hdelete : q ≠ .delete id := by
      rintro rfl
      exact hq rfl
    have hnext := slot_answer hx false hdelete
    rw [hq.onSlot] at hnext
    exact ih (answer_orderly hw false q) hnext fun q hq => hrequests q (List.mem_cons_of_mem _ hq)

/-- **A flow that is stored in rows is read back if its years are plain.**  A flow that has been
decoded and checked is stored under a new id.  Whatever is asked of the store then, as long as the flow
is neither updated nor deleted and no life is stored for it: if its years are plain, it is loaded as it
was stored, there is a list if all others can be read, and the flow is in it once.  Otherwise the text
of one of its instants is told, and there is no list. -/
theorem insert_reads_back {m : RowStore} (hstore : w.store = .rows m) (hw : w.store.Orderly)
    (hnew : w.store.slot f.id = none) {tree : Tree} (hdecoded : Flow.decoder tree = .ok f)
    (hvalid : f.validate = .ok ()) (hg : f.graph.Writable) :
    (w.answer false (.insert f)).1 = .ok () ∧
      ∀ requests : List Request, (∀ q ∈ requests, q.Spares f.id) → ∀ s : Store,
        s = ((w.answer false (.insert f)).2.answers requests).store →
        ((∀ t ∈ f.instants, t.PlainYear) →
          s.get f.id = .ok (some f) ∧
          ((∃ flows, s.list = .ok flows) ↔
            ∀ y ∈ s.slots, y.id ≠ f.id → ∃ g, y.read = .ok g) ∧
          ∀ flows, s.list = .ok flows → flows.filter (fun g => g.id == f.id) = [f]) ∧
        ((¬ ∀ t ∈ f.instants, t.PlainYear) →
          (∃ t ∈ f.instants, ¬ t.PlainYear ∧
            s.get f.id = .error (.database (.badInstant t.rowText))) ∧
          ¬ ∃ flows, s.list = .ok flows) := by
  have hwf := Flow.validate_eq_ok_iff.mp hvalid
  have hpossible := Flow.possible_of_decoder hdecoded
  have htables : (Store.rows m).HasTables := hstore ▸ hw.hasTables
  have hins := Store.insert_of_rows htables (hstore ▸ hnew)
  rw [← hstore] at hins
  refine ⟨hins.1, fun requests hrequests s hs => ?_⟩
  -- whatever has been asked for, the row still stands in its slot
  obtain ⟨horder, hslot⟩ := slot_answers (answer_orderly hw false (.insert f)) hins.2 hrequests
  rw [← hs] at horder hslot
  have hget := horder.hasTables.get_of_slot hslot
  obtain ⟨hlists, hlisted⟩ := horder.list_of_slot hslot
  constructor
  · intro hyears
    have hread : (Slot.row (.ofFlow f)).read = .ok f :=
      Flow.toFlow_ofFlow hwf hg hpossible hyears
    rw [hread] at hget
    refine ⟨hget, hlists.trans ?_, fun flows h => hlisted flows h f hread⟩
    exact and_iff_right ⟨f, hread⟩
  · intro hyears
    -- the row has one instant at least that no reader accepts
    obtain ⟨t, ht, hyear, c, hdamage⟩ := Flow.exists_damage_ofFlow hwf hg hpossible hyears
    have hread : (Slot.row (.ofFlow f)).read = .error (.database (.badInstant t.rowText)) :=
      hdamage.toFlow
    rw [hread] at hget
    refine ⟨⟨t, ht, hyear, hget⟩, fun hlist => ?_⟩
    obtain ⟨⟨g, hg⟩, -⟩ := hlists.mp hlist
    exact nomatch hread.symm.trans hg

/-- The data of a flow that has been created at some instant. -/
def createdOn (id instant : String) : Tree :=
  .obj [("id", .str id), ("name", .str "Loop"), ("nodes", .arr [] .strict),
    ("edges", .arr [] .strict), ("created_at", .str instant)] .strict

/-- A flow that has been created in the morning, and one in the last night of the year 9999, which is
over in universal time. -/
def morning : Flow := .fresh "morning" "Loop" "" ⟨[], []⟩ ⟨1704088800, 0⟩

@[inherit_doc morning]
def lastNight : Flow := .fresh "night" "Loop" "" ⟨[], []⟩ ⟨253402304399, 0⟩

theorem decoder_morning :
    Flow.decoder (createdOn "morning" "2024-01-01T08:00:00+02:00") = .ok morning := by
  decide +kernel

theorem decoder_lastNight :
    Flow.decoder (createdOn "night" "9999-12-31T23:59:59-01:00") = .ok lastNight := by rfl

/-- Behind the flow of the morning another one is created, which takes the list but not the flow. -/
theorem insert_reads_back_morning :
    let w := ((start (.rows .empty) ⟨0, 0⟩).answer false (.insert morning)).2
    w.store.get "morning" = .ok (some morning) ∧ (∃ flows, w.store.list = .ok flows) ∧
      (w.answer false (.insert lastNight)).2.store.get "morning" = .ok (some morning) ∧
      ¬ ∃ flows, (w.answer false (.insert lastNight)).2.store.list = .ok flows := by
  intro w
  have hempty : (start (.rows .empty) ⟨0, 0⟩).store.Orderly := Store.orderly_empty_rows
  obtain ⟨-, hmorning⟩ := insert_reads_back rfl hempty rfl decoder_morning rfl
    (by decide +kernel)
  obtain ⟨-, hnight⟩ := insert_reads_back (w := w) rfl (answer_orderly hempty _ _) rfl
    decoder_lastNight rfl (by decide +kernel)
  obtain ⟨hget, hlist, -⟩ := (hmorning [] nofun _ rfl).1 (by decide)
  obtain ⟨hget', -⟩ := (hmorning [.insert lastNight]
    (List.forall_mem_singleton.mpr trivial) _ rfl).1 (by decide)
  obtain ⟨-, hlist'⟩ := (hnight [] nofun _ rfl).2 (by decide)
  refine ⟨hget, hlist.mpr fun y hy hid => ?_, hget', hlist'⟩
  obtain rfl := List.mem_singleton.mp hy
  exact absurd rfl hid

/-- **It is not so that every flow that has been decoded and checked is read back.** -/
theorem insert_reads_back_lastNight :
    ¬ ∀ (w : World) (m : RowStore) (f : Flow) (tree : Tree), w.store = .rows m → w.store.Orderly →
      w.store.slot f.id = none → Flow.decoder tree = .ok f → f.validate = .ok () →
        f.graph.Writable →
          (w.answer false (.insert f)).2.store.get f.id = .ok (some f) := by
  intro hkept
  have hget := hkept (start (.rows .empty) ⟨0, 0⟩) .empty lastNight _ rfl
    Store.orderly_empty_rows rfl decoder_lastNight rfl (by decide +kernel)
  -- the instant is written with a sign before the year
  have hyear : ¬ lastNight.createdAt.PlainYear := by decide
  obtain ⟨f, hf, -⟩ := map_eq_ok_iff.mp
    (((Store.orderly_empty_rows.hasTables.insert lastNight).get_of_slot rfl).symm.trans hget)
  have hread := (FlowRow.carries_iff_toFlow.mpr hf).createdAt
  rw [FlowRow.ofFlow, Instant.read?_rowText_eq_none hyear] at hread
  exact nomatch hread

end World

end Flowgraph
