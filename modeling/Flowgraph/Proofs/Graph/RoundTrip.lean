import Flowgraph.Proofs.Graph.Data
import Flowgraph.Proofs.Graph.Specified

/-!
# Graphs that come back as they are

A node or an edge is written as data in one way and read from it in two.  As stored data it comes back
as it is (`Node.decoder_ofJson`, `Edge.decoder_ofJson`).  As a specification it comes back as it is if
it is settled: names that must not be blank are not, the data of a node is not `null`, and no port is
without a name (`Node.ofSpec_toJson_iff`, `Edge.ofSpec_toJson_iff`).

What has been read from a specification is settled.  So a graph that has been submitted comes back from
its own data, whichever reader takes that (`Graph.read_of_ofSpecs`).
-/

namespace Flowgraph

/-! ### One node -/

namespace Node

variable {n : Node} {spec : Json}

/-- **A node that comes back from its data as a specification.** -/
structure Settled (n : Node) : Prop where
  id : Text.isBlank n.id = false
  type : Text.isBlank n.type = false
  data : n.data ≠ .null

/-- **What the data of a node is read as**, taken for a specification. -/
theorem ofSpec_toJson (n : Node) : ofSpec n.toJson =
    if Text.isBlank n.id then .error (.nodeLacks none "id")
    else if Text.isBlank n.type then .error (.nodeLacks (some n.id) "type")
    else .ok n.asSubmitted := by
  rw [toJson_eq]
  exact ofSpec_of_members rfl rfl (.inl rfl) (.inl ⟨_, rfl, n.position.decoder_ofJson⟩)

/-- **The nodes that come back are those that are settled.** -/
theorem ofSpec_toJson_iff : ofSpec n.toJson = .ok n ↔ n.Settled := by
  rw [ofSpec_toJson]
  constructor
  · intro h
    split at h
    · exact nomatch h
    · next hid =>
      split at h
      · exact nomatch h
      · next htype =>
        exact ⟨by simpa using hid, by simpa using htype,
          asSubmitted_eq_self_iff.mp (Except.ok.inj h)⟩
  · rintro ⟨hid, htype, hdata⟩
    rw [if_neg (by simp [hid]), if_neg (by simp [htype]), asSubmitted_eq_self_iff.mpr hdata]

/-- **What has been read from a specification is settled.** -/
theorem settled_of_ofSpec (h : ofSpec spec = .ok n) : n.Settled := by
  obtain ⟨hspec, hn⟩ := judges.of_ok h
  refine ⟨Json.notBlank_of_names hspec.id hn.id, Json.notBlank_of_names hspec.type hn.type, ?_⟩
  rcases hn.data with ⟨-, hempty⟩ | ⟨hdata, -⟩
  · rw [hempty]
    exact nofun
  · exact hdata

/-- The data of a node that has been read from a specification in order is in order. -/
theorem sorted_toJson_of_ofSpec (hs : spec.Sorted) (h : ofSpec spec = .ok n) : n.toJson.Sorted := by
  obtain ⟨hspec, hn⟩ := judges.of_ok h
  obtain ⟨members, rfl⟩ := hspec.object
  have hdata : n.data.Sorted := by
    rcases hn.data with ⟨-, hempty⟩ | ⟨-, hdata⟩
    · rw [hempty]
      decide
    · exact hs.of_lookup hdata
  have hposition : n.position.toJson.Sorted := by
    have hkeys : ["x", "y"].Pairwise (· < ·) := by decide
    rw [Position.toJson_eq]
    exact ⟨hkeys, trivial, trivial, trivial⟩
  have hkeys : ["data", "id", "position", "type"].Pairwise (· < ·) := by decide
  rw [toJson_eq]
  exact ⟨hkeys, hdata, trivial, hposition, trivial, trivial⟩

end Node

/-! ### One edge -/

namespace Edge

variable {e : Edge} {spec : Json}

/-- **An edge that comes back from its data as a specification.** -/
structure Settled (e : Edge) : Prop where
  id : Text.isBlank e.id = false
  source : Text.isBlank e.source = false
  target : Text.isBlank e.target = false
  sourcePort : e.sourcePort ≠ some ""
  targetPort : e.targetPort ≠ some ""

/-- **The edges that come back are those that are settled.** -/
theorem ofSpec_toJson_iff : ofSpec e.toJson = .ok e ↔ e.Settled := by
  rw [ofSpec_iff e.decoder_ofJson, @eq_comm _ e, asSubmitted_eq_self_iff]
  constructor
  · rintro ⟨⟨-, hid, hsource, htarget⟩, hsourcePort, htargetPort⟩
    exact ⟨hid, hsource, htarget, hsourcePort, htargetPort⟩
  · rintro ⟨hid, hsource, htarget, hsourcePort, htargetPort⟩
    exact ⟨⟨⟨_, rfl⟩, hid, hsource, htarget⟩, hsourcePort, htargetPort⟩

/-- **What has been read from a specification is settled.** -/
theorem settled_of_ofSpec (h : ofSpec spec = .ok e) : e.Settled := by
  obtain ⟨hspec, he⟩ := judges.of_ok h
  exact ⟨Json.notBlank_of_names hspec.id he.id, Json.notBlank_of_names hspec.source he.source,
    Json.notBlank_of_names hspec.target he.target, fun hempty => ((he.sourcePort _).mp hempty).1 rfl,
    fun hempty => ((he.targetPort _).mp hempty).1 rfl⟩

end Edge

/-! ### Graphs -/

namespace Graph

variable {g : Graph} {nodes edges : List Json}

/-- **A graph that comes back from its data as specifications.** -/
structure Settled (g : Graph) : Prop where
  nodes : ∀ n ∈ g.nodes, n.Settled
  edges : ∀ e ∈ g.edges, e.Settled

theorem WellFormed.ofSpecs_toJson (hg : g.WellFormed) (h : g.Settled) :
    ofSpecs (g.nodes.map Node.toJson) (g.edges.map Edge.toJson) = .ok g := by
  refine bind_eq_ok_iff.mpr ⟨g.nodes, mapM_map_eq_ok_self_iff.mpr fun n hn =>
    Node.ofSpec_toJson_iff.mpr (h.nodes n hn), bind_eq_ok_iff.mpr ⟨g.edges,
    mapM_map_eq_ok_self_iff.mpr fun e he => Edge.ofSpec_toJson_iff.mpr (h.edges e he), ?_⟩⟩
  exact validated_eq_ok_iff.mpr ⟨rfl, hg⟩

/-- What lists of specifications are read as is settled. -/
theorem settled_of_mapM (hnodes : nodes.mapM Node.ofSpec = .ok g.nodes)
    (hedges : edges.mapM Edge.ofSpec = .ok g.edges) : g.Settled := by
  constructor
  · intro n hn
    obtain ⟨j, -, hj⟩ := exists_mem_of_mapM hnodes n hn
    exact Node.settled_of_ofSpec hj
  · intro e he
    obtain ⟨j, -, hj⟩ := exists_mem_of_mapM hedges e he
    exact Edge.settled_of_ofSpec hj

theorem settled_of_ofSpecs (h : ofSpecs nodes edges = .ok g) : g.Settled := by
  obtain ⟨ns, hns, h⟩ := bind_eq_ok_iff.mp h
  obtain ⟨es, hes, h⟩ := bind_eq_ok_iff.mp h
  obtain ⟨rfl, -⟩ := validated_eq_ok_iff.mp h
  exact settled_of_mapM hns hes

/-- A graph whose nodes can be written in order comes back from its data as it is. -/
theorem ofData_toJson (hs : ∀ n ∈ g.nodes, n.toJson.Sorted) :
    ofData (g.nodes.map Node.toJson) (g.edges.map Edge.toJson) = .ok g := by
  have hnodes := Decoder.list_ofJson fun n hn => Node.decoder_ofJson (hs n hn)
  have hedges := Decoder.list_ofJson fun e (_ : e ∈ g.edges) => e.decoder_ofJson
  rw [List.map_id'] at hnodes hedges
  exact bind_eq_ok_iff.mpr ⟨g.nodes, hnodes, bind_eq_ok_iff.mpr ⟨g.edges, hedges, rfl⟩⟩

/-- **What has been submitted comes back from its data**, both as specifications and as stored data. -/
theorem read_of_ofSpecs (hs : ∀ j ∈ nodes, j.Sorted) (h : ofSpecs nodes edges = .ok g) :
    ofSpecs (g.nodes.map Node.toJson) (g.edges.map Edge.toJson) = .ok g ∧
      ofData (g.nodes.map Node.toJson) (g.edges.map Edge.toJson) = .ok g := by
  obtain ⟨ns, hns, h⟩ := bind_eq_ok_iff.mp h
  obtain ⟨es, hes, h⟩ := bind_eq_ok_iff.mp h
  obtain ⟨rfl, hg⟩ := validated_eq_ok_iff.mp h
  refine ⟨hg.ofSpecs_toJson (settled_of_mapM hns hes), ofData_toJson fun n hn => ?_⟩
  obtain ⟨j, hj, hread⟩ := exists_mem_of_mapM hns n hn
  exact Node.sorted_toJson_of_ofSpec (hs j hj) hread

end Graph

end Flowgraph
