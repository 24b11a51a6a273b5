import Flowgraph.Flow.Draft
import Flowgraph.Proofs.Except

/-!
# The check of a graph

`Graph.validate` goes through nodes and edges one after the other and stops at the first fault.  It
finds none if and only if the graph is well formed (`Graph.validate_eq_ok_iff`).  Every graph that
comes out of the readers of specifications, or out of an update of a flow with a well-formed graph,
is therefore well formed.
-/

namespace Flowgraph

namespace Graph

/-! ### The two passes -/

theorem checkNodes_eq_ok_iff {seen : List String} {nodes : List Node} :
    checkNodes seen nodes = .ok () ↔
      (∀ n ∈ nodes, Text.isBlank n.id = false) ∧ (nodes.map (·.id)).Nodup ∧
        ∀ n ∈ nodes, n.id ∉ seen := by
  induction nodes generalizing seen with
  | nil => simp [checkNodes]
  | cons n rest ih =>
    by_cases hb : Text.isBlank n.id = true
    · simp [checkNodes, hb]
    · by_cases hs : n.id ∈ seen
      · simp [checkNodes, hb, hs]
      · -- the node passes, and the rest is checked with its id among those seen
        have hstep : checkNodes seen (n :: rest) = checkNodes (n.id :: seen) rest := by
          simp [checkNodes, hb, hs]
        rw [hstep, ih]
        simp only [List.mem_cons, List.map_cons, List.nodup_cons, List.mem_map, not_or]
        constructor
        · -- that no later id is among those seen says both that this one is new and that it stays alone
          rintro ⟨h₁, h₂, h₃⟩
          refine ⟨?_, ⟨?_, h₂⟩, ?_⟩
          · rintro m (rfl | hm)
            · simpa using hb
            · exact h₁ m hm
          · rintro ⟨m, hm, he⟩
            exact (h₃ m hm).1 he
          · rintro m (rfl | hm)
            · exact hs
            · exact (h₃ m hm).2
        · rintro ⟨h₁, ⟨h₂, h₃⟩, h₄⟩
          exact ⟨fun m hm => h₁ m (.inr hm), h₃,
            fun m hm => ⟨fun he => h₂ ⟨m, hm, he⟩, h₄ m (.inr hm)⟩⟩

theorem checkEdges_eq_ok_iff {nodes seen : List String} {edges : List Edge} :
    checkEdges nodes seen edges = .ok () ↔
      (edges.map (·.id)).Nodup ∧ (∀ e ∈ edges, e.id ∉ seen) ∧
        ∀ e ∈ edges, e.source ∈ nodes ∧ e.target ∈ nodes := by
  induction edges generalizing seen with
  | nil => simp [checkEdges]
  | cons e rest ih =>
    by_cases hs : e.id ∈ seen
    · simp [checkEdges, hs]
    · by_cases hends : e.source ∈ nodes ∧ e.target ∈ nodes
      · -- the edge passes, and the rest is checked with its id among those seen
        have hstep : checkEdges nodes seen (e :: rest) = checkEdges nodes (e.id :: seen) rest := by
          simp [checkEdges, hs, hends.1, hends.2]
        rw [hstep, ih]
        simp only [List.mem_cons, List.map_cons, List.nodup_cons, List.mem_map, not_or]
        constructor
        · -- as for nodes: the id has gone among those seen, so no later one repeats it
          rintro ⟨h₁, h₂, h₃⟩
          refine ⟨⟨?_, h₁⟩, ?_, ?_⟩
          · rintro ⟨d, hd, he⟩
            exact (h₂ d hd).1 he
          · rintro d (rfl | hd)
            · exact hs
            · exact (h₂ d hd).2
          · rintro d (rfl | hd)
            · exact hends
            · exact h₃ d hd
        · rintro ⟨⟨h₁, h₂⟩, h₃, h₄⟩
          exact ⟨h₂, fun d hd => ⟨fun he => h₁ ⟨d, hd, he⟩, h₃ d (.inr hd)⟩,
            fun d hd => h₄ d (.inr hd)⟩
      · -- one of the ends is no node, and the check stops here
        have hstep : checkEdges nodes seen (e :: rest) ≠ .ok () := by
          rcases Classical.not_and_iff_not_or_not.mp hends with h | h
          · simp [checkEdges, hs, h]
          · by_cases hsrc : e.source ∈ nodes <;> simp [checkEdges, hs, hsrc, h]
        refine iff_of_false hstep fun h => hends (h.2.2 e (List.mem_cons_self ..))

/-! ### The first fault -/

/-- **What is wrong with a node** behind others: its id is blank, or it has been seen. -/
inductive NodeFault (seen : List String) (before : List Node) (n : Node) : GraphFault → Prop
  | blank (h : Text.isBlank n.id = true) : NodeFault seen before n .blankNodeId
  | repetition (hid : Text.isBlank n.id = false) (h : n.id ∈ seen ∨ n.id ∈ before.map (·.id)) :
      NodeFault seen before n (.duplicateNode n.id)

/-- **What is wrong with an edge** behind others: its id has been seen, or else one of its ends is no
node. -/
inductive EdgeFault (nodes seen : List String) (before : List Edge) (d : Edge) : GraphFault → Prop
  | repetition (h : d.id ∈ seen ∨ d.id ∈ before.map (·.id)) :
      EdgeFault nodes seen before d (.duplicateEdge d.id)
  | source (hid : ¬ (d.id ∈ seen ∨ d.id ∈ before.map (·.id))) (h : d.source ∉ nodes) :
      EdgeFault nodes seen before d (.unknownEndpoint d.id d.source)
  | target (hid : ¬ (d.id ∈ seen ∨ d.id ∈ before.map (·.id))) (hsource : d.source ∈ nodes)
      (h : d.target ∉ nodes) : EdgeFault nodes seen before d (.unknownEndpoint d.id d.target)

/-- An id that has been seen has been seen, whether it counts among those before or not. -/
theorem seen_cons_iff {α : Type} (key : α → String) (seen : List String) (a : α) (before : List α)
    (id : String) : (id ∈ key a :: seen ∨ id ∈ before.map key) ↔
      id ∈ seen ∨ id ∈ (a :: before).map key := by
  simp only [List.mem_cons, List.map_cons, or_assoc, or_left_comm]

theorem nodeFault_cons_iff {seen : List String} {m n : Node} {before : List Node} {e : GraphFault} :
    NodeFault (m.id :: seen) before n e ↔ NodeFault seen (m :: before) n e := by
  have hseen := seen_cons_iff Node.id seen m before n.id
  constructor <;> rintro (h | ⟨hid, h⟩)
  · exact .blank h
  · exact .repetition hid (hseen.mp h)
  · exact .blank h
  · exact .repetition hid (hseen.mpr h)

theorem edgeFault_cons_iff {nodes seen : List String} {c d : Edge} {before : List Edge}
    {e : GraphFault} :
    EdgeFault nodes (c.id :: seen) before d e ↔ EdgeFault nodes seen (c :: before) d e := by
  have hseen := seen_cons_iff Edge.id seen c before d.id
  constructor <;> rintro (h | ⟨hid, h⟩ | ⟨hid, hsource, h⟩)
  · exact .repetition (hseen.mp h)
  · exact .source (fun hid' => hid (hseen.mpr hid')) h
  · exact .target (fun hid' => hid (hseen.mpr hid')) hsource h
  · exact .repetition (hseen.mpr h)
  · exact .source (fun hid' => hid (hseen.mp hid')) h
  · exact .target (fun hid' => hid (hseen.mp hid')) hsource h

/-- **The first node with a fault** is the one that the check tells of. -/
theorem checkNodes_eq_error_iff {seen : List String} {nodes : List Node} {e : GraphFault} :
    checkNodes seen nodes = .error e ↔
      ∃ before n after, nodes = before ++ n :: after ∧ checkNodes seen before = .ok () ∧
        NodeFault seen before n e := by
  induction nodes generalizing seen with
  | nil =>
    refine iff_of_false nofun ?_
    rintro ⟨before, n, after, h, -, -⟩
    exact absurd h.symm (by simp)
  | cons m rest ih =>
    -- either the first node is the one, or it passes and the others are checked behind it
    have hfirst : ∀ e, NodeFault seen [] m e → checkNodes seen (m :: rest) = .error e := by
      rintro e (h | ⟨hid, h⟩)
      · simp [checkNodes, h]
      · simp [checkNodes, hid, h.resolve_right List.not_mem_nil]
    have hstep : Text.isBlank m.id = false → m.id ∉ seen → ∀ l,
        checkNodes seen (m :: l) = checkNodes (m.id :: seen) l := by
      intro hb hs l
      simp [checkNodes, hb, hs]
    constructor
    · intro h
      by_cases hb : Text.isBlank m.id = true
      · have hfault : NodeFault seen [] m .blankNodeId := .blank hb
        obtain rfl := Except.error.inj (h.symm.trans (hfirst _ hfault))
        exact ⟨[], m, rest, rfl, rfl, hfault⟩
      · rw [Bool.not_eq_true] at hb
        by_cases hs : m.id ∈ seen
        · have hfault : NodeFault seen [] m (.duplicateNode m.id) := .repetition hb (.inl hs)
          obtain rfl := Except.error.inj (h.symm.trans (hfirst _ hfault))
          exact ⟨[], m, rest, rfl, rfl, hfault⟩
        · rw [hstep hb hs] at h
          obtain ⟨before, n, after, rfl, hbefore, hn⟩ := ih.mp h
          exact ⟨m :: before, n, after, rfl, (hstep hb hs before).trans hbefore,
            nodeFault_cons_iff.mp hn⟩
    · rintro ⟨before, n, after, hsplit, hbefore, hn⟩
      cases before with
      | nil =>
        obtain ⟨rfl, -⟩ := List.cons.inj hsplit
        exact hfirst e hn
      | cons m' before =>
        obtain ⟨rfl, rfl⟩ := List.cons.inj hsplit
        -- the first node passes, as all before the one at fault do
        obtain ⟨hblank, -, hseen⟩ := checkNodes_eq_ok_iff.mp hbefore
        have hb := hblank m (List.mem_cons_self ..)
        have hs := hseen m (List.mem_cons_self ..)
        rw [hstep hb hs] at hbefore ⊢
        exact ih.mpr ⟨before, n, after, rfl, hbefore, nodeFault_cons_iff.mpr hn⟩

/-- **The first edge with a fault** is the one that the check tells of. -/
theorem checkEdges_eq_error_iff {nodes seen : List String} {edges : List Edge} {e : GraphFault} :
    checkEdges nodes seen edges = .error e ↔
      ∃ before d after, edges = before ++ d :: after ∧ checkEdges nodes seen before = .ok () ∧
        EdgeFault nodes seen before d e := by
  induction edges generalizing seen with
  | nil =>
    refine iff_of_false nofun ?_
    rintro ⟨before, d, after, h, -, -⟩
    exact absurd h.symm (by simp)
  | cons c rest ih =>
    -- either the first edge is the one, or it passes and the others are checked behind it
    have hfirst : ∀ e, EdgeFault nodes seen [] c e → checkEdges nodes seen (c :: rest) = .error e := by
      rintro e (h | ⟨hid, h⟩ | ⟨hid, hsource, h⟩)
      · simp [checkEdges, h.resolve_right List.not_mem_nil]
      · simp [checkEdges, not_or.mp hid, h]
      · simp [checkEdges, not_or.mp hid, hsource, h]
    have hstep : c.id ∉ seen → c.source ∈ nodes → c.target ∈ nodes → ∀ l,
        checkEdges nodes seen (c :: l) = checkEdges nodes (c.id :: seen) l := by
      intro hid hsource htarget l
      simp [checkEdges, hid, hsource, htarget]
    constructor
    · intro h
      by_cases hpass : c.id ∉ seen ∧ c.source ∈ nodes ∧ c.target ∈ nodes
      · obtain ⟨hid, hsource, htarget⟩ := hpass
        rw [hstep hid hsource htarget] at h
        obtain ⟨before, d, after, rfl, hbefore, hd⟩ := ih.mp h
        exact ⟨c :: before, d, after, rfl, (hstep hid hsource htarget before).trans hbefore,
          edgeFault_cons_iff.mp hd⟩
      · -- what is wrong with it is looked for in the order of the check
        obtain ⟨e', hfault⟩ : ∃ e', EdgeFault nodes seen [] c e' := by
          by_cases hid : c.id ∈ seen
          · exact ⟨_, .repetition (.inl hid)⟩
          have hnew : ¬ (c.id ∈ seen ∨ c.id ∈ ([] : List Edge).map (·.id)) := by simpa using hid
          by_cases hsource : c.source ∈ nodes
          · exact ⟨_, .target hnew hsource fun htarget => hpass ⟨hid, hsource, htarget⟩⟩
          · exact ⟨_, .source hnew hsource⟩
        obtain rfl := Except.error.inj (h.symm.trans (hfirst _ hfault))
        exact ⟨[], c, rest, rfl, rfl, hfault⟩
    · rintro ⟨before, d, after, hsplit, hbefore, hd⟩
      cases before with
      | nil =>
        obtain ⟨rfl, -⟩ := List.cons.inj hsplit
        exact hfirst e hd
      | cons c' before =>
        obtain ⟨rfl, rfl⟩ := List.cons.inj hsplit
        -- the first edge passes, as all before the one at fault do
        obtain ⟨-, hseen, hends⟩ := checkEdges_eq_ok_iff.mp hbefore
        have hid := hseen c (List.mem_cons_self ..)
        obtain ⟨hsource, htarget⟩ := hends c (List.mem_cons_self ..)
        rw [hstep hid hsource htarget] at hbefore ⊢
        exact ih.mpr ⟨before, d, after, rfl, hbefore, edgeFault_cons_iff.mpr hd⟩

/-! ### The whole check -/

/-- **The check of a graph finds no fault if and only if the graph is well formed.** -/
theorem validate_eq_ok_iff {g : Graph} : g.validate = .ok () ↔ g.WellFormed := by
  have hval : g.validate = .ok () ↔
      checkNodes [] g.nodes = .ok () ∧ checkEdges g.nodeIds [] g.edges = .ok () := by
    rw [validate, bind_eq_ok_iff]
    exact ⟨fun ⟨_, hn, he⟩ => ⟨hn, he⟩, fun ⟨hn, he⟩ => ⟨(), hn, he⟩⟩
  rw [hval, checkNodes_eq_ok_iff, checkEdges_eq_ok_iff]
  constructor
  · rintro ⟨⟨h₁, h₂, -⟩, h₃, -, h₄⟩
    exact ⟨h₁, h₂, h₃, fun e he => (h₄ e he).1, fun e he => (h₄ e he).2⟩
  · intro h
    exact ⟨⟨h.nodeIds_notBlank, h.nodeIds_nodup, by simp⟩, h.edgeIds_nodup, by simp,
      fun e he => ⟨h.source_mem e he, h.target_mem e he⟩⟩

theorem validated_eq_ok_iff {g g' : Graph} : g.validated = .ok g' ↔ g' = g ∧ g.WellFormed := by
  rw [← validate_eq_ok_iff, validated, bind_eq_ok_iff]
  constructor
  · rintro ⟨u, hv, h⟩
    exact ⟨(Except.ok.inj h).symm, hv⟩
  · rintro ⟨rfl, hv⟩
    exact ⟨(), hv, rfl⟩

/-- Specifications are read into well-formed graphs only. -/
theorem wellFormed_of_ofSpecs {nodes edges : List Json} {g : Graph}
    (h : ofSpecs nodes edges = .ok g) : g.WellFormed := by
  obtain ⟨ns, -, h⟩ := bind_eq_ok_iff.mp h
  obtain ⟨es, -, h⟩ := bind_eq_ok_iff.mp h
  obtain ⟨rfl, hw⟩ := validated_eq_ok_iff.mp h
  exact hw

end Graph

/-! ### Flows -/

theorem Flow.validate_eq_ok_iff {f : Flow} : f.validate = .ok () ↔ f.graph.WellFormed := by
  rw [Flow.validate, mapError_eq_ok_iff, Graph.validate_eq_ok_iff]

theorem Draft.wellFormed_of_graph {d : Draft} {g : Graph} (h : d.graph = .ok g) :
    g.WellFormed :=
  Graph.wellFormed_of_ofSpecs (mapError_eq_ok_iff.mp h)

theorem Flow.replaceGraph_eq_ok_iff {f f' : Flow} {g : Graph} :
    f.replaceGraph g = .ok f' ↔ g.WellFormed ∧ f' = { f with graph := g } := by
  rw [replaceGraph, bind_eq_ok_iff]
  simp only [mapError_eq_ok_iff, Graph.validated_eq_ok_iff]
  constructor
  · rintro ⟨g', ⟨rfl, hw⟩, h⟩
    exact ⟨hw, (Except.ok.inj h).symm⟩
  · rintro ⟨hw, rfl⟩
    exact ⟨g, ⟨rfl, hw⟩, rfl⟩

/-- The flow with the name and the description of an update. -/
def Update.renamed (u : Update) (f : Flow) : Flow :=
  { f with
    name := (u.name.filter fun n => !Text.isBlank n).getD f.name
    description := u.description.getD f.description }

/-- **What an update comes to.**  Either it leaves the graph alone, or it puts two halves in place
of the old ones that are well formed together. -/
theorem Update.apply_cases {u : Update} {f f' : Flow} (h : u.apply f = .ok f') :
    (u.nodes = none ∧ u.edges = none ∧ f' = u.renamed f) ∨
      ∃ g : Graph, half Node.ofSpec f.graph.nodes u.nodes = .ok g.nodes ∧
        half Edge.ofSpec f.graph.edges u.edges = .ok g.edges ∧ g.WellFormed ∧
        f' = { u.renamed f with graph := g } := by
  unfold apply at h
  dsimp only at h
  split at h
  · obtain ⟨ns, hn, h⟩ := bind_eq_ok_iff.mp h
    obtain ⟨es, he, h⟩ := bind_eq_ok_iff.mp h
    obtain ⟨hw, rfl⟩ := Flow.replaceGraph_eq_ok_iff.mp h
    exact .inr ⟨⟨ns, es⟩, hn, he, hw, rfl⟩
  · next hc =>
    obtain rfl := Except.ok.inj h
    simp only [Bool.or_eq_true, not_or, Bool.not_eq_true, Option.isSome_eq_false_iff,
      Option.isNone_iff_eq_none] at hc
    exact .inl ⟨hc.1, hc.2, rfl⟩

/-- An update leaves the id of a flow as it is. -/
theorem Update.id_of_apply {u : Update} {f f' : Flow} (h : u.apply f = .ok f') : f'.id = f.id := by
  rcases u.apply_cases h with ⟨-, -, rfl⟩ | ⟨g, -, -, -, rfl⟩ <;> rfl

/-- An update keeps the graph of a flow well formed. -/
theorem Update.wellFormed_of_apply {u : Update} {f f' : Flow} (hf : f.graph.WellFormed)
    (h : u.apply f = .ok f') : f'.graph.WellFormed := by
  rcases u.apply_cases h with ⟨-, -, rfl⟩ | ⟨g, -, -, hg, rfl⟩
  · exact hf
  · exact hg

end Flowgraph
