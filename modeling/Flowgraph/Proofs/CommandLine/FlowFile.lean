import Flowgraph.CommandLine.FlowFile
import Flowgraph.Proofs.Graph.Reread

/-!
# What comes from a flow file

A flow file is a text, so its specifications fit, and so does the graph that they make.  The file nests
a specification deeper than the row of a flow does, so there is room enough to write it
(`FlowFile.fits_graph`).
-/

namespace Flowgraph.CommandLine.FlowFile

variable {text : String} {f : FlowFile} {g : Graph}

/-- How deep a node may nest that comes from a flow file: it stands in an array in an object. -/
def nodeDepth : Nat := Tree.depthLimit - 3

/-- **The specifications of a flow file are in order and fit.** -/
theorem fits_nodes (h : ofText? text = some f) :
    ∀ j ∈ f.draft.nodes, j.Sorted ∧ j.Fits nodeDepth := by
  have hdecoded : decoder (Tree.read text).1 = .ok f := by
    unfold ofText? at h
    cases hok : decoder.ofText text with
    | error e =>
      rw [hok] at h
      exact nomatch h
    | ok f' =>
      rw [hok] at h
      obtain rfl := Option.some.inj h
      exact Decoder.of_ofText hok
  -- whatever is read from a text fits, and so do the parts that the specifications are taken from
  have hfits := Tree.fits_read text
  generalize (Tree.read text).1 = t at hdecoded hfits
  cases t with
  | obj ms closing =>
    obtain ⟨_, -, hdecoded⟩ := bind_eq_ok_iff.mp hdecoded
    obtain ⟨⟨id, _⟩, -, hdecoded⟩ := bind_eq_ok_iff.mp hdecoded
    obtain ⟨draft, hdraft, hdecoded⟩ := bind_eq_ok_iff.mp hdecoded
    obtain rfl := Except.ok.inj hdecoded
    obtain ⟨⟨name, description, nodes, edges, _⟩, hrow, rfl⟩ := map_eq_ok_iff.mp hdraft
    obtain ⟨-, -, hnodes, -⟩ := Decoder.decoded_of_record hrow
    -- the nodes stand under their key, or the key is missing and there are none
    rcases hnodes with ⟨t, ht, hnodes⟩ | habsent
    · obtain ⟨m, hm, rfl⟩ := List.mem_map.mp ht
      have hm' := hfits.parts m.2 (List.mem_map_of_mem (List.mem_of_mem_filter hm))
      exact Decoder.fits_of_list hm' hnodes
    · intro j hj
      obtain rfl := Option.some.inj habsent
      exact nomatch hj
  | _ => exact nomatch hdecoded

/-- **The graph of a flow file is well formed and fits.** -/
theorem fits_graph (h : ofText? text = some f) (hg : f.draft.graph = .ok g) :
    g.Fits nodeDepth ∧ g.WellFormed := by
  have hspecs := mapError_eq_ok_iff.mp hg
  exact ⟨Graph.fits_of_ofSpecs (by decide) (fits_nodes h) hspecs,
    Graph.wellFormed_of_ofSpecs hspecs⟩

/-- **A text of one byte or none is no flow file**, which is at least an object. -/
theorem one_lt_utf8ByteSize (h : ofText? text = some f) : 1 < text.utf8ByteSize := by
  -- a byte is a character of its own, and there are few enough of them to try
  have hempty : (ofText? "").isNone := by decide +kernel
  have hsingle : ∀ n : Fin 128, (ofText? (String.singleton (Char.ofNat n))).isNone := by
    decide +kernel
  by_contra hshort
  have hnone : (ofText? text).isNone := by
    cases hcs : text.toList with
    | nil => rwa [← String.ofList_toList (s := text), hcs]
    | cons c cs =>
      rw [← String.ofList_toList (s := text), hcs, String.ofList_cons] at hshort ⊢
      rw [String.utf8ByteSize_append, String.utf8ByteSize_singleton] at hshort
      have hpos := c.utf8Size_pos
      have hrest : String.ofList cs = "" := String.utf8ByteSize_eq_zero_iff.mp (by omega)
      have hsize : c.toNat ≤ 127 := Char.utf8Size_eq_one_iff.mp (by omega)
      have hchar := hsingle ⟨c.toNat, by omega⟩
      rwa [hrest, String.append_empty, ← Char.ofNat_toNat c]
  rw [h] at hnone
  exact nomatch hnone

/-! ### Storing -/

/-- The instant of creation that is asked for, and the flow that is stored then. -/
def storing (name description : String) (g : Graph) (id : String) :
    Operation (Except Fault Flow) :=
  .ask .clock fun t => .ask (.insert (.fresh id name description g t)) fun r =>
    .done (r.map fun _ => .fresh id name description g t)

/-- **A file with a well-formed graph asks for an id, unless it has one, and stores the flow.**  That
the graph is checked again refuses nothing. -/
theorem store_run_of_ok (hg : f.draft.graph = .ok g) (hw : g.WellFormed) : f.store.run =
    match f.id with
    | some id => storing f.draft.name f.draft.description g id
    | none => .ask .freshFlowId (storing f.draft.name f.draft.description g) := by
  unfold store
  cases f.id with
  | none =>
    dsimp only
    unfold Flows.create
    rw [hg]
    -- both sides make the same requests, and differ only in how the flow is passed on
    refine congrArg (Interaction.ask Request.freshFlowId) (funext fun id => ?_)
    refine congrArg (Interaction.ask Request.clock) (funext fun t => ?_)
    refine congrArg (Interaction.ask (Request.insert _)) (funext fun r => ?_)
    cases r <;> rfl
  | some id =>
    dsimp only
    rw [hg]
    refine congrArg (Interaction.ask Request.clock) (funext fun t => ?_)
    show (Flows.importFlow (.fresh id f.draft.name f.draft.description g t)).run = _
    unfold Flows.importFlow
    rw [Flow.validate_eq_ok_iff.mpr hw]
    refine congrArg (Interaction.ask (Request.insert _)) (funext fun r => ?_)
    cases r <;> rfl

/-- A file that has no graph stores nothing. -/
theorem store_run_of_error {e : Fault} (hg : f.draft.graph = .error e) : f.store.run =
    match f.id with
    | some _ => .done (.error e)
    | none => .ask .freshFlowId fun _ => .done (.error e) := by
  unfold store
  cases f.id with
  | none =>
    dsimp only
    unfold Flows.create
    rw [hg]
    rfl
  | some id =>
    dsimp only
    rw [hg]
    rfl

end Flowgraph.CommandLine.FlowFile
