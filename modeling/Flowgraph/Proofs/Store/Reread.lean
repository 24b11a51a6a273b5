import Flowgraph.Proofs.Graph.Reread
import Flowgraph.Proofs.Store.Row
import Flowgraph.Proofs.Time.Text

/-!
# Rows that are read again

The row of a flow is read as the flow with its graph read again (`Flow.toFlow_reread`): no flow whose
graph fits is lost, whatever its numbers.
-/

namespace Flowgraph

/-- **What the row of a flow is read as.** -/
def Flow.reread (f : Flow) : Flow := { f with graph := f.graph.reread }

/-- The text of a list is read item by item, as the text of each item is. -/
theorem FlowRow.readList_reread {α : Type} {d : Decoder α} {toJson : α → Json} {f : α → α}
    {as : List α} {k : Nat} (hk : k + 1 < Tree.depthLimit) (hfits : ∀ a ∈ as, (toJson a).Fits k)
    (h : ∀ a ∈ as, d (Tree.ofJson (toJson a).reread) = .ok (f a)) :
    readList d (listText (as.map toJson)) = .ok (as.map f) := by
  have hlist : (Json.arr (as.map toJson)).Fits (k + 1) := by
    refine ⟨Nat.succ_pos k, Json.fitItems_iff.mpr fun j hj => ?_⟩
    obtain ⟨a, ha, rfl⟩ := List.mem_map.mp hj
    exact hfits a ha
  have hreread : (Json.arr (as.map toJson)).reread = .arr (as.map fun a => (toJson a).reread) := by
    rw [Json.reread, Json.rereadItems_eq_map, List.map_map]
    rfl
  have hdecoded : Decoder.list d (Tree.ofJson (Json.arr (as.map toJson)).reread)
      = .ok (as.map f) := by
    rw [hreread]
    exact Decoder.list_ofJson h
  rw [readList, listText, Decoder.ofText_compact hlist hk hdecoded]
  rfl

/-- **The row of a flow is read**, if its graph is well formed and fits and its instants are legible. -/
theorem Flow.toFlow_reread {f : Flow} {k : Nat} (hk : k + 1 < Tree.depthLimit)
    (hfits : f.graph.Fits k) (hw : f.graph.WellFormed) (hcreated : f.createdAt.Legible)
    (hlast : ∀ t ∈ f.lastRun, t.Legible) : (FlowRow.ofFlow f).toFlow = .ok f.reread := by
  have hnodes := FlowRow.readList_reread hk (fun n hn => (hfits n hn).2)
    fun n hn => Node.decoder_reread (hfits n hn).1 (hfits n hn).2
  have hedges : FlowRow.readList Edge.decoder (FlowRow.listText (f.graph.edges.map Edge.toJson))
      = .ok (f.graph.edges.map fun e => e) :=
    FlowRow.readList_reread (k := 1) (by decide) (fun e _ => e.steady_toJson.fits)
      fun e _ => e.decoder_reread
  rw [List.map_id'] at hedges
  exact FlowRow.toFlow_eq_ok_iff.mpr ⟨⟨rfl, rfl, rfl⟩, hnodes, hedges, hw.reread, rfl,
    Instant.read?_rowText hcreated, Instant.map_read?_rowText hlast⟩

end Flowgraph
