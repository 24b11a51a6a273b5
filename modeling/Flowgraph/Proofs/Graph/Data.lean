import Flowgraph.Graph.Edge
import Flowgraph.Proofs.Json.Decode

/-!
# Reading back the nodes and edges of a graph

What a node or an edge is written as is decoded as the same node or edge.  The data of a node may be
any value, so it has to be in order.
-/

namespace Flowgraph

theorem Position.toJson_eq (p : Position) :
    p.toJson = .obj [("x", .ofDouble p.x), ("y", .ofDouble p.y)] := by
  simp (disch := decide) only [toJson, Json.ofMembers, Json.insert, List.foldl, if_neg]

theorem Position.decoder_ofJson (p : Position) : decoder (Tree.ofJson p.toJson) = .ok p := by
  rw [toJson_eq]
  rfl

theorem Node.toJson_eq (n : Node) :
    n.toJson = .obj [("data", n.data), ("id", .str n.id), ("position", n.position.toJson),
      ("type", .str n.type)] := by
  simp (disch := decide) only [toJson, Json.ofMembers, Json.insert, List.foldl, if_pos, if_neg]

/-- **A node is read back** from its data, if this is in order. -/
theorem Node.decoder_ofJson {n : Node} (hn : n.toJson.Sorted) :
    decoder (Tree.ofJson n.toJson) = .ok n := by
  rw [toJson_eq] at hn ⊢
  have hdata : Decoder.value (Tree.ofJson n.data) = .ok n.data :=
    Decoder.value_ofJson (hn.member (List.mem_cons_self ..))
  have hposition := n.position.decoder_ofJson
  rw [decoder, Decoder.record_ofJson]
  simp [fields, hdata, hposition]

/-- **An edge is read back** from its data.  A port that is left out is one that the edge does not
have. -/
theorem Edge.decoder_ofJson (e : Edge) : decoder (Tree.ofJson e.toJson) = .ok e := by
  obtain ⟨id, source, target, sourcePort, targetPort⟩ := e
  cases sourcePort <;> cases targetPort
  all_goals
    simp (disch := decide) only [toJson, portMember, List.append_nil, List.cons_append,
      List.nil_append, Json.ofMembers, Json.insert, List.foldl, if_pos, if_neg]
    rw [decoder, Decoder.record_ofJson]
    simp [fields, Decoder.optional]

end Flowgraph
