import Mathlib.Data.List.Forall2
import Flowgraph.Proofs.Graph.WellFormed
import Flowgraph.Proofs.Json.Members

/-!
# The two readers of a graph

The nodes and edges of a graph are read as stored data (`Graph.ofData`), when a flow is imported, or
as submitted specifications (`Graph.ofSpecs`), when it is created or updated.  The reader of
specifications asks for more: a specification is an object, and neither the type of a node nor the id
of an edge is blank.  And it reads two things otherwise: data that is `null` is left out, and so is a
port without a name (`Graph.asSubmitted`).

These are all the differences (`Graph.ofSpecs_of_data`).  A graph that has been read as stored data and
is well formed is read from the same specifications, with the two things read otherwise, if and only
if the specifications have what is asked for.
-/

namespace Flowgraph

/-- **Two readers of lists compared.**  Where the second reads a member as `change` of what the first
has read, if what is read has what is asked for, it does so with the whole list. -/
theorem mapM_iff_of_forall₂ {ε α β γ : Type} {f : α → Except ε γ} {first : α → β → Prop}
    {given : α → Prop} {asked : β → Prop} {change : β → γ} {l : List α} {read : List β}
    (h : List.Forall₂ first l read)
    (hf : ∀ a ∈ l, ∀ b c, first a b → (f a = .ok c ↔ (given a ∧ asked b) ∧ c = change b))
    {l' : List γ} : l.mapM f = .ok l' ↔
      ((∀ a ∈ l, given a) ∧ ∀ b ∈ read, asked b) ∧ l' = read.map change := by
  induction h generalizing l' with
  | nil =>
    rw [List.mapM_nil]
    exact ⟨fun h => ⟨⟨nofun, nofun⟩, (Except.ok.inj h).symm⟩, fun h => h.2 ▸ rfl⟩
  | cons hab _ ih =>
    have hhead := fun c => hf _ (List.mem_cons_self ..) _ c hab
    have hrest := @ih fun a ha => hf a (List.mem_cons_of_mem _ ha)
    rw [List.mapM_cons, bind_eq_ok_iff, List.forall_mem_cons, List.forall_mem_cons]
    constructor
    · rintro ⟨c, hc, h⟩
      obtain ⟨rest', htail, h⟩ := bind_eq_ok_iff.mp h
      obtain ⟨⟨hgiven, hasked⟩, rfl⟩ := (hhead c).mp hc
      obtain ⟨⟨hgivens, haskeds⟩, rfl⟩ := hrest.mp htail
      exact ⟨⟨⟨hgiven, hgivens⟩, hasked, haskeds⟩, (Except.ok.inj h).symm⟩
    · rintro ⟨⟨⟨hgiven, hgivens⟩, hasked, haskeds⟩, rfl⟩
      exact ⟨_, (hhead _).mpr ⟨⟨hgiven, hasked⟩, rfl⟩,
        bind_eq_ok_iff.mpr ⟨_, hrest.mpr ⟨⟨hgivens, haskeds⟩, rfl⟩, rfl⟩⟩

namespace Json

/-- The value is an object. -/
def IsObject (j : Json) : Prop := ∃ members, j = .obj members

theorem Sorted.of_lookup {members : List (String × Json)} (h : (obj members).Sorted) {key : String}
    {j : Json} (hj : lookup key members = some j) : j.Sorted := by
  obtain ⟨m, hm, rfl⟩ := Option.map_eq_some_iff.mp hj
  exact h.member (List.mem_of_find?_eq_some hm)

end Json

theorem Decoder.ofJson_string {j : Json} {s : String} (h : ofJson string j = .ok s) :
    j = .str s := by
  cases j with
  | str t => exact congrArg Json.str (Except.ok.inj h)
  | _ => exact nomatch h

/-! ### Nodes -/

namespace Node

/-- **A node as it is when it has been submitted**: data that is `null` is left out. -/
def asSubmitted (n : Node) : Node :=
  { n with data := if n.data = .null then Json.empty else n.data }

theorem asSubmitted_eq_self_iff {n : Node} : n.asSubmitted = n ↔ n.data ≠ .null := by
  obtain ⟨id, type, data, position⟩ := n
  cases data <;> simp [asSubmitted, Json.empty]

theorem fields_apart : fields.Pairwise Field.Apart := by
  simp [fields, Field.Apart]

variable {members : List (String × Json)} {n n' : Node}

/-- What an object has from which a node has been read. -/
theorem members_of_decoder (hs : (Json.obj members).Sorted)
    (h : Decoder.ofJson decoder (.obj members) = .ok n) :
    Json.lookup "id" members = some (.str n.id) ∧ Json.lookup "type" members = some (.str n.type) ∧
      (Json.lookup "data" members = some n.data ∨
        Json.lookup "data" members = none ∧ n.data = Json.empty) ∧
      ((∃ j, Json.lookup "position" members = some j ∧
          Decoder.ofJson Position.decoder j = .ok n.position) ∨
        Json.lookup "position" members = none ∧ n.position = .origin) := by
  obtain ⟨⟨id, type, data, position, _⟩, hrow, rfl⟩ := map_eq_ok_iff.mp h
  obtain ⟨hid, htype, hdata, hposition, -⟩ := Decoder.reads_of_record fields_apart hrow
  obtain ⟨j, hid, hj⟩ := hid.of_required
  obtain ⟨j', htype, hj'⟩ := htype.of_required
  obtain rfl := Decoder.ofJson_string hj
  obtain rfl := Decoder.ofJson_string hj'
  refine ⟨hid, htype, ?_, hposition.of_default⟩
  -- data is decoded as the value that stands there, since this one is in order
  rcases hdata.of_default with ⟨j, hfound, hj⟩ | habsent
  · rw [Decoder.ofJson, Decoder.value_ofJson (hs.of_lookup hfound)] at hj
    exact .inl (Except.ok.inj hj ▸ hfound)
  · exact .inr habsent

theorem requiredText?_of_lookup {key s : String} (h : Json.lookup key members = some (.str s)) :
    requiredText? members key = if Text.isBlank s then none else some s := by
  rw [requiredText?, h]
  rfl

/-- What a specification gives for data that has been read. -/
theorem given?_data (h : Json.lookup "data" members = some n.data ∨
    Json.lookup "data" members = none ∧ n.data = Json.empty) :
    (given? members "data").getD Json.empty = n.asSubmitted.data := by
  unfold given? asSubmitted
  rcases h with h | ⟨h, hempty⟩
  · rw [h]
    cases n.data <;> rfl
  · rw [h, hempty]
    rfl

/-- What a specification gives for a position that has been read. -/
theorem given?_position (h : (∃ j, Json.lookup "position" members = some j ∧
      Decoder.ofJson Position.decoder j = .ok n.position) ∨
    Json.lookup "position" members = none ∧ n.position = .origin) :
    (∃ j, given? members "position" = some j ∧
        Decoder.ofJson Position.decoder j = .ok n.position) ∨
      given? members "position" = none ∧ n.position = .origin := by
  unfold given?
  rcases h with ⟨j, h, hj⟩ | ⟨h, horigin⟩
  · rw [h]
    cases j with
    | null => exact nomatch hj
    | _ => exact .inl ⟨_, rfl, hj⟩
  · rw [h]
    exact .inr ⟨rfl, horigin⟩

/-- **What a specification is read as** that has the fields of a node: it is refused if the id or the
type is blank. -/
theorem ofSpec_of_members (hid : Json.lookup "id" members = some (.str n.id))
    (htype : Json.lookup "type" members = some (.str n.type))
    (hdata : Json.lookup "data" members = some n.data ∨
      Json.lookup "data" members = none ∧ n.data = Json.empty)
    (hposition : (∃ j, Json.lookup "position" members = some j ∧
        Decoder.ofJson Position.decoder j = .ok n.position) ∨
      Json.lookup "position" members = none ∧ n.position = .origin) :
    ofSpec (.obj members) =
      if Text.isBlank n.id then .error (.nodeLacks none "id")
      else if Text.isBlank n.type then .error (.nodeLacks (some n.id) "type")
      else .ok n.asSubmitted := by
  unfold ofSpec
  dsimp only
  rw [requiredText?_of_lookup hid, requiredText?_of_lookup htype, given?_data hdata]
  by_cases hidBlank : Text.isBlank n.id = true
  · rw [if_pos hidBlank, if_pos hidBlank]
    rfl
  · rw [if_neg hidBlank, if_neg hidBlank]
    by_cases htypeBlank : Text.isBlank n.type = true
    · rw [if_pos htypeBlank, if_pos htypeBlank]
      rfl
    · rw [if_neg htypeBlank, if_neg htypeBlank]
      -- nothing is left that could be refused: the position can be read
      rcases given?_position hposition with ⟨j, hgiven, hj⟩ | ⟨hgiven, horigin⟩
      · rw [hgiven]
        dsimp only
        rw [hj]
        rfl
      · rw [hgiven, asSubmitted, horigin]
        rfl

/-- **A specification is read as the node that it is as data**, if it is an object and neither the id
nor the type is blank. -/
theorem ofSpec_iff {spec : Json} (hs : spec.Sorted) (h : Decoder.ofJson decoder spec = .ok n) :
    ofSpec spec = .ok n' ↔
      (spec.IsObject ∧ Text.isBlank n.id = false ∧ Text.isBlank n.type = false) ∧
        n' = n.asSubmitted := by
  cases spec with
  | obj members =>
    obtain ⟨hid, htype, hdata, hposition⟩ := members_of_decoder hs h
    rw [ofSpec_of_members hid htype hdata hposition]
    have hobject : (Json.obj members).IsObject := ⟨members, rfl⟩
    cases Text.isBlank n.id <;> cases Text.isBlank n.type <;>
      simp [hobject, eq_comm]
  | _ => exact iff_of_false nofun fun h => nomatch h.1.1.choose_spec

end Node

/-! ### Edges -/

namespace Edge

/-- **An edge as it is when it has been submitted**: a port without a name is left out. -/
def asSubmitted (e : Edge) : Edge :=
  { e with
    sourcePort := e.sourcePort.filter (!·.isEmpty)
    targetPort := e.targetPort.filter (!·.isEmpty) }

theorem filter_isEmpty_eq_self_iff {port : Option String} :
    port.filter (!·.isEmpty) = port ↔ port ≠ some "" := by
  cases port <;> simp

theorem asSubmitted_eq_self_iff {e : Edge} :
    e.asSubmitted = e ↔ e.sourcePort ≠ some "" ∧ e.targetPort ≠ some "" := by
  obtain ⟨id, source, target, sourcePort, targetPort⟩ := e
  simp only [asSubmitted, Edge.mk.injEq, true_and]
  exact and_congr filter_isEmpty_eq_self_iff filter_isEmpty_eq_self_iff

theorem fields_apart : fields.Pairwise Field.Apart := by
  simp [fields, Field.Apart, or_imp, forall_and]

variable {members : List (String × Json)} {e e' : Edge}

/-- A port that has been decoded is what a specification gives for it, but for one without a name. -/
theorem specPort?_of_reads {key other : String} {port : Option String}
    (h : Field.Reads ⟨key, [other], _, Decoder.optional Decoder.string, some none⟩ members port) :
    specPort? members key other = port.filter (!·.isEmpty) := by
  unfold specPort?
  rcases h.of_alias with ⟨j, hfound, hj⟩ | ⟨hnone, rfl⟩
  · rw [hfound]
    cases j with
    | null =>
      obtain rfl := Except.ok.inj hj
      rfl
    -- an empty name is decoded as a name, and filtered out as a specification leaves it out
    | str s =>
      obtain rfl := Except.ok.inj hj
      show (if s.isEmpty then none else some s) = if !s.isEmpty then some s else none
      cases s.isEmpty <;> rfl
    | _ => exact nomatch hj
  · rw [hnone]
    rfl

/-- What an object has from which an edge has been read. -/
theorem members_of_decoder (h : Decoder.ofJson decoder (.obj members) = .ok e) :
    Json.lookup "id" members = some (.str e.id) ∧
      Json.lookup "source" members = some (.str e.source) ∧
      Json.lookup "target" members = some (.str e.target) ∧
      specPort? members "sourceHandle" "source_handle" = e.asSubmitted.sourcePort ∧
      specPort? members "targetHandle" "target_handle" = e.asSubmitted.targetPort := by
  obtain ⟨⟨id, source, target, sourcePort, targetPort, _⟩, hrow, rfl⟩ := map_eq_ok_iff.mp h
  obtain ⟨hid, hsource, htarget, hsourcePort, htargetPort, -⟩ :=
    Decoder.reads_of_record fields_apart hrow
  obtain ⟨j, hid, hj⟩ := hid.of_required
  obtain ⟨j', hsource, hj'⟩ := hsource.of_required
  obtain ⟨j'', htarget, hj''⟩ := htarget.of_required
  obtain rfl := Decoder.ofJson_string hj
  obtain rfl := Decoder.ofJson_string hj'
  obtain rfl := Decoder.ofJson_string hj''
  exact ⟨hid, hsource, htarget, specPort?_of_reads hsourcePort, specPort?_of_reads htargetPort⟩

/-- **What a specification is read as** from which an edge has been read: it is refused if the id or
one of the ends is blank. -/
theorem ofSpec_obj (h : Decoder.ofJson decoder (.obj members) = .ok e) :
    ofSpec (.obj members) =
      if Text.isBlank e.id then .error (.edgeLacks none "id")
      else if Text.isBlank e.source then .error (.edgeLacks (some e.id) "source")
      else if Text.isBlank e.target then .error (.edgeLacks (some e.id) "target")
      else .ok e.asSubmitted := by
  obtain ⟨hid, hsource, htarget, hsourcePort, htargetPort⟩ := members_of_decoder h
  unfold ofSpec
  dsimp only
  rw [Node.requiredText?_of_lookup hid, Node.requiredText?_of_lookup hsource,
    Node.requiredText?_of_lookup htarget, hsourcePort, htargetPort]
  cases Text.isBlank e.id <;> cases Text.isBlank e.source <;> cases Text.isBlank e.target <;> rfl

/-- **A specification is read as the edge that it is as data**, if it is an object and neither the id
nor one of the ends is blank. -/
theorem ofSpec_iff {spec : Json} (h : Decoder.ofJson decoder spec = .ok e) :
    ofSpec spec = .ok e' ↔
      (spec.IsObject ∧ Text.isBlank e.id = false ∧ Text.isBlank e.source = false ∧
        Text.isBlank e.target = false) ∧ e' = e.asSubmitted := by
  cases spec with
  | obj members =>
    rw [ofSpec_obj h]
    have hobject : (Json.obj members).IsObject := ⟨members, rfl⟩
    cases Text.isBlank e.id <;> cases Text.isBlank e.source <;> cases Text.isBlank e.target <;>
      simp [hobject, eq_comm]
  | _ => exact iff_of_false nofun fun h => nomatch h.1.1.choose_spec

end Edge

/-! ### Graphs -/

theorem Decoder.forall₂_of_each {α : Type} {d : Decoder α} {items : List Json} {as : List α}
    (h : each d (Tree.ofItems items) = .ok as) :
    List.Forall₂ (fun j a => ofJson d j = .ok a) items as := by
  induction items generalizing as with
  | nil =>
    obtain rfl := Except.ok.inj h
    exact .nil
  | cons j rest ih =>
    obtain ⟨a, ha, hrest⟩ := bind_eq_ok_iff.mp h
    obtain ⟨as', has, hrest⟩ := bind_eq_ok_iff.mp hrest
    obtain rfl := Except.ok.inj hrest
    exact .cons ha (ih has)

/-- A list of data is decoded item by item. -/
theorem Decoder.forall₂_of_list {α : Type} {d : Decoder α} {items : List Json} {as : List α}
    (h : ofJson (list d) (.arr items) = .ok as) :
    List.Forall₂ (fun j a => ofJson d j = .ok a) items as := by
  obtain ⟨as', hitems, hclosed⟩ := bind_eq_ok_iff.mp h
  obtain rfl : as' = as := Except.ok.inj hclosed
  exact forall₂_of_each hitems

namespace Graph

/-- **Reads a graph from stored data**, whatever the graph. -/
def ofData (nodes edges : List Json) : Except DecodeError Graph := do
  let nodes ← Decoder.ofJson (Decoder.list Node.decoder) (.arr nodes)
  let edges ← Decoder.ofJson (Decoder.list Edge.decoder) (.arr edges)
  return ⟨nodes, edges⟩

/-- **A graph as it is when it has been submitted.** -/
def asSubmitted (g : Graph) : Graph :=
  ⟨g.nodes.map Node.asSubmitted, g.edges.map Edge.asSubmitted⟩

variable {g g' : Graph} {nodes edges : List Json}

theorem ofData_eq_ok (h : ofData nodes edges = .ok g) :
    List.Forall₂ (fun j n => Decoder.ofJson Node.decoder j = .ok n) nodes g.nodes ∧
      List.Forall₂ (fun j e => Decoder.ofJson Edge.decoder j = .ok e) edges g.edges := by
  obtain ⟨ns, hns, h⟩ := bind_eq_ok_iff.mp h
  obtain ⟨es, hes, h⟩ := bind_eq_ok_iff.mp h
  obtain rfl := Except.ok.inj h
  exact ⟨Decoder.forall₂_of_list hns, Decoder.forall₂_of_list hes⟩

/-- What is read otherwise is no matter to the check of a graph. -/
theorem WellFormed.asSubmitted (hg : g.WellFormed) : g.asSubmitted.WellFormed := by
  have hnodes : g.asSubmitted.nodeIds = g.nodeIds := by
    simp only [nodeIds, Graph.asSubmitted, List.map_map]
    rfl
  have hedges : g.asSubmitted.edgeIds = g.edgeIds := by
    simp only [edgeIds, Graph.asSubmitted, List.map_map]
    rfl
  refine ⟨?_, hnodes ▸ hg.nodeIds_nodup, hedges ▸ hg.edgeIds_nodup, ?_, ?_⟩
  · intro n hn
    obtain ⟨m, hm, rfl⟩ := List.mem_map.mp hn
    exact hg.nodeIds_notBlank m hm
  · intro e he
    obtain ⟨d, hd, rfl⟩ := List.mem_map.mp he
    exact hnodes ▸ hg.source_mem d hd
  · intro e he
    obtain ⟨d, hd, rfl⟩ := List.mem_map.mp he
    exact hnodes ▸ hg.target_mem d hd

/-- The ends of an edge are not blank, since they are ids of nodes. -/
theorem WellFormed.ends_notBlank (hg : g.WellFormed) {e : Edge} (he : e ∈ g.edges) :
    Text.isBlank e.source = false ∧ Text.isBlank e.target = false := by
  obtain ⟨n, hn, hsource⟩ := List.mem_map.mp (hg.source_mem e he)
  obtain ⟨m, hm, htarget⟩ := List.mem_map.mp (hg.target_mem e he)
  exact ⟨hsource ▸ hg.nodeIds_notBlank n hn, htarget ▸ hg.nodeIds_notBlank m hm⟩

theorem asSubmitted_eq_self_iff :
    g.asSubmitted = g ↔ (∀ n ∈ g.nodes, n.data ≠ .null) ∧
      ∀ e ∈ g.edges, e.sourcePort ≠ some "" ∧ e.targetPort ≠ some "" := by
  have hsame : ∀ {α : Type} {f : α → α} {l : List α}, l.map f = l ↔ ∀ a ∈ l, f a = a := by
    intro α f l
    have hid : l.map f = l.map id ↔ ∀ a ∈ l, f a = id a := List.map_inj_left
    rwa [List.map_id] at hid
  obtain ⟨nodes, edges⟩ := g
  rw [asSubmitted, Graph.mk.injEq, hsame, hsame]
  exact and_congr (forall₂_congr fun n _ => Node.asSubmitted_eq_self_iff)
    (forall₂_congr fun e _ => Edge.asSubmitted_eq_self_iff)

/-- **Submitted and stored graphs compared.**  A graph that is read from stored data and is well formed
is read from the same values as specifications, if each of them is an object and no node has a blank
type and no edge a blank id.  Then data that is `null` is read as data left out, and a port without a
name as no port; where there is no such thing, and only there, the two graphs are the same. -/
theorem ofSpecs_of_data (hs : ∀ j ∈ nodes ++ edges, j.Sorted) (h : ofData nodes edges = .ok g)
    (hvalid : g.validate = .ok ()) :
    (∀ g', ofSpecs nodes edges = .ok g' ↔
      ((∀ j ∈ nodes ++ edges, j.IsObject) ∧ (∀ n ∈ g.nodes, Text.isBlank n.type = false) ∧
        ∀ e ∈ g.edges, Text.isBlank e.id = false) ∧ g' = g.asSubmitted) ∧
      (g.asSubmitted = g ↔ (∀ n ∈ g.nodes, n.data ≠ .null) ∧
        ∀ e ∈ g.edges, e.sourcePort ≠ some "" ∧ e.targetPort ≠ some "") := by
  have hg : g.WellFormed := validate_eq_ok_iff.mp hvalid
  obtain ⟨hnodes, hedges⟩ := ofData_eq_ok h
  -- both readers go through the values one by one, so they are compared value by value
  have hnodes : ∀ {ns}, nodes.mapM Node.ofSpec = .ok ns ↔ _ :=
    mapM_iff_of_forall₂ hnodes fun j hj n n' hn =>
      Node.ofSpec_iff (hs j (List.mem_append_left _ hj)) hn
  have hedges : ∀ {es}, edges.mapM Edge.ofSpec = .ok es ↔ _ :=
    mapM_iff_of_forall₂ hedges fun j _ e e' he => Edge.ofSpec_iff he
  refine ⟨fun g' => ?_, asSubmitted_eq_self_iff⟩
  rw [ofSpecs, bind_eq_ok_iff, List.forall_mem_append]
  constructor
  · rintro ⟨ns, hns, h⟩
    obtain ⟨es, hes, h⟩ := bind_eq_ok_iff.mp h
    obtain ⟨rfl, -⟩ := validated_eq_ok_iff.mp h
    obtain ⟨⟨hnodesObjects, hnodesAsked⟩, rfl⟩ := hnodes.mp hns
    obtain ⟨⟨hedgesObjects, hedgesAsked⟩, rfl⟩ := hedges.mp hes
    exact ⟨⟨⟨hnodesObjects, hedgesObjects⟩, fun n hn => (hnodesAsked n hn).2,
      fun e he => (hedgesAsked e he).1⟩, rfl⟩
  · rintro ⟨⟨⟨hnodesObjects, hedgesObjects⟩, htypes, hids⟩, rfl⟩
    refine ⟨_, hnodes.mpr ⟨⟨hnodesObjects, fun n hn => ⟨hg.nodeIds_notBlank n hn, htypes n hn⟩⟩, rfl⟩,
      bind_eq_ok_iff.mpr ⟨_, hedges.mpr ⟨⟨hedgesObjects, fun e he => ?_⟩, rfl⟩, ?_⟩⟩
    · exact ⟨hids e he, hg.ends_notBlank he⟩
    · -- neither the ids nor the ends have changed, so the check passes again
      exact validated_eq_ok_iff.mpr ⟨rfl, hg.asSubmitted⟩

/-- A node with data that is `null`. -/
def nullNode : Json :=
  Json.ofMembers [("id", .str "start"), ("type", .str "trigger"), ("data", .null)]

/-- An edge through a port without a name. -/
def namelessEdge : Json :=
  Json.ofMembers [("id", .str "back"), ("source", .str "start"), ("target", .str "start"),
    ("sourceHandle", .str "")]

/-- The graph of the two, as stored data. -/
def nullGraph : Graph :=
  ⟨[⟨"start", "trigger", .null, .origin⟩], [⟨"back", "start", "start", some "", none⟩]⟩

/-- As specifications the node has data without members, and the edge no port. -/
theorem ofSpecs_of_data_nullGraph :
    ofData [nullNode] [namelessEdge] = .ok nullGraph ∧
      ofSpecs [nullNode] [namelessEdge] = .ok ⟨[⟨"start", "trigger", Json.empty, .origin⟩],
        [⟨"back", "start", "start", none, none⟩]⟩ ∧ nullGraph.asSubmitted ≠ nullGraph := by
  have hread : ofData [nullNode] [namelessEdge] = .ok nullGraph := by rfl
  obtain ⟨hspecs, hsame⟩ := ofSpecs_of_data (by decide) hread (by decide +kernel)
  refine ⟨hread, (hspecs _).mpr ⟨⟨?_, by decide +kernel, by decide +kernel⟩, by decide⟩, ?_⟩
  · exact List.forall_mem_cons.mpr ⟨⟨_, rfl⟩, List.forall_mem_singleton.mpr ⟨_, rfl⟩⟩
  · exact fun h => (hsame.mp h).1 _ (List.mem_singleton.mpr rfl) rfl

/-- **It is not so that the two readers agree** on what both of them read. -/
theorem ofSpecs_of_data_unlike :
    ¬ ∀ (nodes edges : List Json) (g : Graph), (∀ j ∈ nodes ++ edges, j.Sorted) →
      ofData nodes edges = .ok g → g.validate = .ok () → ofSpecs nodes edges = .ok g := by
  intro hagree
  have hread : ofSpecs [nullNode] [namelessEdge] = .ok nullGraph :=
    hagree _ _ _ (by decide) (by rfl) (by decide +kernel)
  exact absurd hread (by decide +kernel)

end Graph

/-- **The graph of a flow that is imported is read from stored data.** -/
theorem Flow.ofData_of_decoder {members : List (String × Json)} {f : Flow}
    (h : Decoder.ofJson Flow.decoder (.obj members) = .ok f) :
    ∃ nodes edges, Json.lookup "nodes" members = some (.arr nodes) ∧
      Json.lookup "edges" members = some (.arr edges) ∧ Graph.ofData nodes edges = .ok f.graph := by
  -- a list is decoded from an array, and from nothing else
  have hlist : ∀ {α : Type} {d : Decoder α} {j : Json} {as : List α},
      Decoder.ofJson (Decoder.list d) j = .ok as → ∃ items, j = .arr items := by
    intro α d j as h
    cases j with
    | arr items => exact ⟨items, rfl⟩
    | _ => exact nomatch h
  have hapart : Flow.fields.Pairwise Field.Apart := by simp [Flow.fields, Field.Apart]
  obtain ⟨⟨id, name, description, nodes, edges, status, createdAt, lastRun, _⟩, hrow, rfl⟩ :=
    map_eq_ok_iff.mp h
  obtain ⟨-, -, -, hnodes, hedges, -⟩ := Decoder.reads_of_record hapart hrow
  obtain ⟨j, hnodes, hj⟩ := hnodes.of_required
  obtain ⟨j', hedges, hj'⟩ := hedges.of_required
  obtain ⟨nodes', rfl⟩ := hlist hj
  obtain ⟨edges', rfl⟩ := hlist hj'
  exact ⟨nodes', edges', hnodes, hedges,
    bind_eq_ok_iff.mpr ⟨nodes, hj, bind_eq_ok_iff.mpr ⟨edges, hj', rfl⟩⟩⟩

end Flowgraph
