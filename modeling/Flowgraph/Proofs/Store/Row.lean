import Flowgraph.Store.Rows
import Flowgraph.Proofs.Graph.WellFormed

/-!
# What a row is read as

A row is read as a flow if and only if each of its columns is read as the part of the flow that it
is for (`FlowRow.toFlow_eq_ok_iff`).  A change of one column therefore changes one part of what is
read.
-/

namespace Flowgraph

theorem Status.text_injective : Function.Injective Status.text := by
  intro s t h
  have hread : ofText? s.text = ofText? t.text := congrArg ofText? h
  rw [ofText?_text, ofText?_text] at hread
  exact Option.some.inj hread

/-- What is read as a status is the text of it. -/
theorem Status.ofStored_eq_ok_iff {text : String} {status : Status} :
    ofStored text = .ok status ↔ text = status.text := by
  constructor
  · intro h
    unfold ofStored at h
    split at h
    · next found hfound =>
      obtain rfl := Except.ok.inj h
      have htext := List.find?_some (p := fun s : Status => s.text == text) hfound
      exact (beq_iff_eq.mp htext).symm
    · exact nomatch h
  · rintro rfl
    rw [ofStored, ofText?_text]

namespace FlowRow

theorem readInstant_eq_ok_iff {text : String} {t : Instant} :
    readInstant text = .ok t ↔ Instant.read? text = some t := by
  unfold readInstant
  cases Instant.read? text with
  | none => exact ⟨nofun, nofun⟩
  | some t' => rw [Except.ok.injEq, Option.some.injEq]

/-- A column that may be empty is read as what is in it, if there is anything. -/
theorem mapM_readInstant_eq_ok_iff {text : Option String} {t : Option Instant} :
    text.mapM readInstant = .ok t ↔ text.map Instant.read? = t.map some := by
  cases text with
  | none =>
    show Except.ok none = Except.ok t ↔ none = t.map some
    cases t with
    | none => exact iff_of_true rfl rfl
    | some t => exact iff_of_false nofun nofun
  | some text =>
    show (readInstant text >>= fun t => .ok (some t)) = .ok t ↔ some _ = t.map some
    rw [bind_eq_ok_iff]
    simp only [readInstant_eq_ok_iff, Except.ok.injEq]
    cases t with
    | none => exact iff_of_false (fun ⟨_, _, h⟩ => nomatch h) nofun
    | some t =>
      constructor
      · rintro ⟨t', h, ht⟩
        obtain rfl := Option.some.inj ht
        exact congrArg some h
      · intro h
        exact ⟨t, Option.some.inj h, rfl⟩

/-- **What a row is read as**, column by column. -/
theorem toFlow_eq_ok_iff {r : FlowRow} {f : Flow} :
    r.toFlow = .ok f ↔
      (f.id = r.id ∧ f.name = r.name ∧ f.description = r.description) ∧
        readList Node.decoder r.nodes = .ok f.graph.nodes ∧
        readList Edge.decoder r.edges = .ok f.graph.edges ∧ f.graph.WellFormed ∧
        r.status = f.status.text ∧ Instant.read? r.createdAt = some f.createdAt ∧
        r.lastRun.map Instant.read? = f.lastRun.map some := by
  constructor
  · -- the columns are read one after the other, and each of them has to be read
    intro h
    obtain ⟨nodes, hnodes, h⟩ := bind_eq_ok_iff.mp h
    obtain ⟨edges, hedges, h⟩ := bind_eq_ok_iff.mp h
    obtain ⟨g, hg, h⟩ := bind_eq_ok_iff.mp h
    obtain ⟨status, hstatus, h⟩ := bind_eq_ok_iff.mp h
    obtain ⟨createdAt, hcreated, h⟩ := bind_eq_ok_iff.mp h
    obtain ⟨lastRun, hlast, h⟩ := bind_eq_ok_iff.mp h
    obtain rfl := Except.ok.inj h
    obtain ⟨rfl, hw⟩ := Graph.validated_eq_ok_iff.mp (mapError_eq_ok_iff.mp hg)
    exact ⟨⟨rfl, rfl, rfl⟩, hnodes, hedges, hw,
      Status.ofStored_eq_ok_iff.mp (mapError_eq_ok_iff.mp hstatus),
      readInstant_eq_ok_iff.mp hcreated, mapM_readInstant_eq_ok_iff.mp hlast⟩
  · rintro ⟨⟨hid, hname, hdescription⟩, hnodes, hedges, hw, hstatus, hcreated, hlast⟩
    refine bind_eq_ok_iff.mpr ⟨f.graph.nodes, hnodes, ?_⟩
    refine bind_eq_ok_iff.mpr ⟨f.graph.edges, hedges, ?_⟩
    refine bind_eq_ok_iff.mpr ⟨f.graph,
      mapError_eq_ok_iff.mpr (Graph.validated_eq_ok_iff.mpr ⟨rfl, hw⟩), ?_⟩
    refine bind_eq_ok_iff.mpr ⟨f.status,
      mapError_eq_ok_iff.mpr (Status.ofStored_eq_ok_iff.mpr hstatus), ?_⟩
    refine bind_eq_ok_iff.mpr ⟨f.createdAt, readInstant_eq_ok_iff.mpr hcreated, ?_⟩
    refine bind_eq_ok_iff.mpr ⟨f.lastRun, mapM_readInstant_eq_ok_iff.mpr hlast, ?_⟩
    rw [← hid, ← hname, ← hdescription]
    rfl

end FlowRow

end Flowgraph
