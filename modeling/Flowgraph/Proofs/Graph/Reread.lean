import Flowgraph.Proofs.Graph.RoundTrip
import Flowgraph.Proofs.Json.Bounds

/-!
# Graphs that are read again

The data of a graph is written as text and read from there.  If its nodes fit (`Graph.Writes`), as they
do when the graph was itself read from a text, that never fails, and the graph that is read differs from
the one that was written at most in binary numbers: it is `Graph.reread`, and so has the ids and types
of nodes and the edges that were written, and is as well formed.
-/

namespace Flowgraph

/-! ### Values -/

namespace Json

theorem rereadItems_eq_map (items : List Json) : rereadItems items = items.map reread := by
  induction items with
  | nil => rfl
  | cons j rest ih => rw [rereadItems, ih, List.map_cons]

theorem keys_rereadMembers (members : List (String × Json)) :
    (rereadMembers members).map (·.1) = members.map (·.1) := by
  induction members with
  | nil => rfl
  | cons m rest ih => rw [rereadMembers, List.map_cons, List.map_cons, ih]

mutual

/-- What a value in order is read as is in order. -/
theorem Sorted.reread : {j : Json} → j.Sorted → j.reread.Sorted
  | .null, _ | .bool _, _ | .num _, _ | .str _, _ => by
    rw [Json.reread]
    trivial
  | .arr items, h => by
    rw [Json.reread]
    exact @SortedItems.reread items h
  | .obj members, h => by
    rw [Json.reread]
    exact ⟨(keys_rereadMembers members).symm ▸ h.1, SortedMembers.reread h.2⟩

theorem SortedItems.reread : {items : List Json} → SortedItems items →
    SortedItems (rereadItems items)
  | [], _ => trivial
  | _ :: _, h => ⟨Sorted.reread h.1, SortedItems.reread h.2⟩

theorem SortedMembers.reread : {members : List (String × Json)} → SortedMembers members →
    SortedMembers (rereadMembers members)
  | [], _ => trivial
  | _ :: _, h => ⟨Sorted.reread h.1, SortedMembers.reread h.2⟩

end

theorem Fits.of_lookup {members : List (String × Json)} {n : Nat} (h : (obj members).Fits n)
    {key : String} {j : Json} (hj : lookup key members = some j) : j.Fits (n - 1) := by
  obtain ⟨m, hm, rfl⟩ := Option.map_eq_some_iff.mp hj
  exact fitMembers_iff.mp h.2 m (List.mem_of_find?_eq_some hm)

end Json

/-- What the text of a binary number is read as. -/
def Number.rereadReal (x : Double) : Double :=
  match reread (.real x) with
  | .real y => y
  | .int _ => x

theorem Number.reread_real {x : Double} (hx : x.Fits) :
    reread (.real x) = .real (rereadReal x) := by
  obtain ⟨y, -, hy, -⟩ := exists_reread_eq hx
  rw [rereadReal, hy]

/-! ### Nodes and edges -/

/-- What the text of a position is read as. -/
def Position.reread (p : Position) : Position :=
  ⟨Number.rereadReal p.x, Number.rereadReal p.y⟩

theorem Position.fits_toJson_iff {p : Position} {n : Nat} :
    p.toJson.Fits n ↔ 0 < n ∧ p.x.Fits ∧ p.y.Fits := by
  rw [toJson_eq]
  show 0 < n ∧ p.x.Fits ∧ p.y.Fits ∧ True ↔ _
  rw [and_true]

theorem Position.reread_toJson {p : Position} {n : Nat} (h : p.toJson.Fits n) :
    p.toJson.reread = p.reread.toJson := by
  obtain ⟨-, hx, hy⟩ := fits_toJson_iff.mp h
  rw [toJson_eq, toJson_eq]
  simp [Json.reread, Json.rereadMembers, Json.ofDouble, Number.reread_real hx,
    Number.reread_real hy, reread]

/-- **A position that is decoded from a tree that fits has numbers that fit.** -/
theorem Position.fits_of_decoder {t : Tree} {n : Nat} (ht : t.Fits n) {p : Position}
    (h : decoder t = .ok p) : p.x.Fits ∧ p.y.Fits := by
  obtain ⟨⟨x, y, _⟩, hrow, rfl⟩ := map_eq_ok_iff.mp h
  obtain ⟨hx, hy, -⟩ := Decoder.decoded_of_record hrow
  have hcoordinate : ∀ z : Double, ((∃ t' ∈ t.parts, Decoder.double t' = .ok z) ∨
      some (Binary.zero : Double) = some z) → z.Fits := by
    rintro z (⟨t', ht', hz⟩ | hz)
    · exact Decoder.fits_of_double (ht.parts t' ht') hz
    · exact Option.some.inj hz ▸ Binary.fits_zero false
  exact ⟨hcoordinate x hx, hcoordinate y hy⟩

namespace Node

variable {n : Node} {k : Nat}

/-- **What the text of a node is read as.** -/
def reread (n : Node) : Node := { n with data := n.data.reread, position := n.position.reread }

theorem fits_toJson_iff : n.toJson.Fits k ↔
    0 < k ∧ n.data.Fits (k - 1) ∧ n.position.toJson.Fits (k - 1) := by
  rw [toJson_eq]
  show 0 < k ∧ n.data.Fits (k - 1) ∧ True ∧ n.position.toJson.Fits (k - 1) ∧ True ∧ True ↔ _
  rw [true_and, and_true, and_true]

theorem reread_toJson (h : n.toJson.Fits k) : n.toJson.reread = n.reread.toJson := by
  obtain ⟨-, -, hposition⟩ := fits_toJson_iff.mp h
  rw [toJson_eq, toJson_eq]
  simp only [Json.reread, Json.rereadMembers, Position.reread_toJson hposition, reread]

/-- **A node is read again**, if its data is in order and fits. -/
theorem decoder_reread (hs : n.toJson.Sorted) (h : n.toJson.Fits k) :
    decoder (Tree.ofJson n.toJson.reread) = .ok n.reread := by
  have hsorted := hs.reread
  rw [reread_toJson h] at hsorted ⊢
  exact decoder_ofJson hsorted

/-- **A node that is read from a specification that fits can be written.** -/
theorem fits_of_ofSpec {spec : Json} (hk : 1 < k) (hfits : spec.Fits k) (h : ofSpec spec = .ok n) :
    n.toJson.Fits k := by
  obtain ⟨hspec, hn⟩ := judges.of_ok h
  obtain ⟨members, rfl⟩ := hspec.object
  rw [fits_toJson_iff, Position.fits_toJson_iff]
  refine ⟨by omega, ?_, by omega, ?_⟩
  · rcases hn.data with ⟨-, hempty⟩ | ⟨-, hdata⟩
    · rw [hempty]
      exact ⟨by omega, trivial⟩
    · exact hfits.of_lookup hdata
  · rcases hn.position with ⟨-, horigin⟩ | ⟨j, hj, hposition⟩
    · rw [horigin]
      exact ⟨Binary.fits_zero false, Binary.fits_zero false⟩
    · exact Position.fits_of_decoder (Tree.fits_ofJson (hfits.of_lookup hj)) hposition

end Node

namespace Edge

/-- The data of an edge has no more than texts. -/
theorem steady_toJson (e : Edge) : e.toJson.Steady 1 := by
  have hport (key : String) (port : Option String) : ∀ m ∈ portMember key port, m.2.Steady 0 := by
    cases port with
    | none => exact nofun
    | some p => exact List.forall_mem_singleton.mpr (Json.steady_str 0 p)
  refine Json.steady_ofMembers fun m hm => ?_
  rcases List.mem_append.mp hm with hm | hm
  · rcases List.mem_append.mp hm with hm | hm
    · simp only [List.mem_cons, List.not_mem_nil, or_false] at hm
      rcases hm with rfl | rfl | rfl <;> exact Json.steady_str 0 _
    · exact hport _ _ m hm
  · exact hport _ _ m hm

theorem decoder_reread (e : Edge) : decoder (Tree.ofJson e.toJson.reread) = .ok e := by
  rw [e.steady_toJson.same]
  exact e.decoder_ofJson

end Edge

/-! ### Graphs -/

namespace Graph

variable {g : Graph} {k : Nat}

/-- **A graph fits**: the data of each node is in order, and fits in this depth. -/
def Fits (k : Nat) (g : Graph) : Prop := ∀ n ∈ g.nodes, n.toJson.Sorted ∧ n.toJson.Fits k

/-- **What the texts of a graph are read as.** -/
def reread (g : Graph) : Graph := { g with nodes := g.nodes.map Node.reread }

theorem nodeIds_reread (g : Graph) : g.reread.nodeIds = g.nodeIds := by
  show (g.nodes.map Node.reread).map (·.id) = g.nodes.map (·.id)
  rw [List.map_map]
  rfl

/-- What the texts of a graph are read as is as well formed as the graph. -/
theorem WellFormed.reread (h : g.WellFormed) : g.reread.WellFormed where
  nodeIds_notBlank n hn := by
    obtain ⟨m, hm, rfl⟩ := List.mem_map.mp hn
    exact h.nodeIds_notBlank m hm
  nodeIds_nodup := (nodeIds_reread g).symm ▸ h.nodeIds_nodup
  edgeIds_nodup := h.edgeIds_nodup
  source_mem e he := (nodeIds_reread g).symm ▸ h.source_mem e he
  target_mem e he := (nodeIds_reread g).symm ▸ h.target_mem e he

/-- The node at which runs start is the one that was written. -/
theorem trigger?_reread (g : Graph) : g.reread.trigger? = g.trigger?.map Node.reread := by
  show (g.nodes.map Node.reread).find? Node.isTrigger = _
  rw [List.find?_map]
  rfl

/-- **A graph whose specifications fit can be written.** -/
theorem fits_of_ofSpecs {nodes edges : List Json} (hk : 1 < k)
    (h : ∀ j ∈ nodes, j.Sorted ∧ j.Fits k) (hg : ofSpecs nodes edges = .ok g) : g.Fits k := by
  obtain ⟨ns, hns, hg⟩ := bind_eq_ok_iff.mp hg
  obtain ⟨es, -, hg⟩ := bind_eq_ok_iff.mp hg
  obtain ⟨rfl, -⟩ := validated_eq_ok_iff.mp hg
  intro n hn
  obtain ⟨j, hj, hread⟩ := exists_mem_of_mapM hns n hn
  exact ⟨Node.sorted_toJson_of_ofSpec (h j hj).1 hread, Node.fits_of_ofSpec hk (h j hj).2 hread⟩

end Graph

end Flowgraph
