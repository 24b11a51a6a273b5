import Mathlib.Data.List.Nodup
import Flowgraph.Run.Executor
import Flowgraph.Proofs.Graph.WellFormed

/-!
# Looking up nodes and edges

In a well-formed graph an id stands for one node at most, so it does not matter from which end the
nodes are searched, and every edge leads to a node.  The edge that a run follows out of a node is
the same whether the edges of the node are set apart first or the whole list is searched.
-/

namespace Flowgraph

namespace Graph

/-- Where ids do not repeat, a node is found under its id and nowhere else. -/
theorem find?_id_eq_some_iff {nodes : List Node} (hn : (nodes.map (·.id)).Nodup) {id : String}
    {n : Node} : nodes.find? (·.id == id) = some n ↔ n ∈ nodes ∧ n.id = id := by
  constructor
  · intro h
    exact ⟨List.mem_of_find?_eq_some h, by simpa using List.find?_some h⟩
  · rintro ⟨hmem, rfl⟩
    -- another node might come first, but it would have the same id
    cases h : nodes.find? (·.id == n.id) with
    | none => exact absurd (List.find?_eq_none.mp h n hmem) (by simp)
    | some m =>
      have hid : m.id = n.id := by simpa using List.find?_some h
      rw [List.inj_on_of_nodup_map hn (List.mem_of_find?_eq_some h) hmem hid]

variable {g : Graph}

theorem WellFormed.node?_eq_some_iff (hg : g.WellFormed) {id : String} {n : Node} :
    g.node? id = some n ↔ n ∈ g.nodes ∧ n.id = id :=
  find?_id_eq_some_iff hg.nodeIds_nodup

/-- The node that an edge leads to is found from either end of the nodes. -/
theorem WellFormed.target?_eq (hg : g.WellFormed) (e : Edge) : g.target? e = g.node? e.target := by
  have hrev : (g.nodes.reverse.map (·.id)).Nodup := by
    rw [List.map_reverse, List.nodup_reverse]
    exact hg.nodeIds_nodup
  apply Option.ext
  intro n
  rw [target?, find?_id_eq_some_iff hrev, hg.node?_eq_some_iff, List.mem_reverse]

/-- **Every edge of a well-formed graph leads to a node.** -/
theorem WellFormed.exists_target (hg : g.WellFormed) {e : Edge} (he : e ∈ g.edges) :
    ∃ n ∈ g.nodes, g.target? e = some n := by
  obtain ⟨n, hn, hid⟩ := List.mem_map.mp (hg.target_mem e he)
  refine ⟨n, hn, ?_⟩
  rw [hg.target?_eq, hg.node?_eq_some_iff]
  exact ⟨hn, hid⟩

/-- The edge that a run follows, searched in the whole list of edges. -/
theorem nextEdge?_eq (g : Graph) (node port : String) :
    g.nextEdge? node port =
      (g.edges.find? fun e => e.source == node && e.leavesBy port).or
        (g.edges.find? fun e => e.source == node && e.sourcePort.isNone) := by
  have hout : g.outbound node none = g.edges.filter fun e => e.source == node := by
    simp [outbound]
  simp only [nextEdge?, hout, List.find?_filter, Bool.decide_and, Bool.decide_eq_true]

theorem nextEdge?_mem {node port : String} {e : Edge} (h : g.nextEdge? node port = some e) :
    e ∈ g.edges := by
  rw [nextEdge?_eq, Option.or_eq_some_iff] at h
  rcases h with h | ⟨-, h⟩
  · exact List.mem_of_find?_eq_some h
  · exact List.mem_of_find?_eq_some h

end Graph

end Flowgraph
