import Flowgraph.Proofs.Graph.Submitted
import Mathlib.Data.List.Nodup

/-!
# Which specifications make a graph

What is asked of the specifications of a graph can be said of the submitted values themselves, before
any node or edge has been read from them (`Graph.Acceptable`): each is an object that names what it has
to name, ids do not repeat, and the ends of edges are ids of nodes.  `Graph.ofSpecs` reads exactly such
specifications, one node or edge from each (`Node.Specified`, `Edge.Specified`), and otherwise tells the
first fault there is (`Graph.ofSpecs_eq_error_iff`).

Faults are looked for in four passes, over nodes, edges, nodes and edges again (`Graph.FirstFault`).  The
first two passes read one specification after the other; the other two compare each with those before
it.  A blank id of a node is found in the first pass already, so the third one finds repetitions only.
-/

namespace Flowgraph

/-! ### Members of a specification -/

namespace Json

/-- A text that is not blank stands under the key. -/
def Names (spec : Json) (key s : String) : Prop :=
  spec.member? key = some (.str s) ∧ Text.isBlank s = false

/-- Nothing stands under the key, or `null`. -/
def LeavesOut (spec : Json) (key : String) : Prop :=
  spec.member? key = none ∨ spec.member? key = some .null

/-- **The port that is given** under one key or, if there is no such member, under the other one.  A
text without characters gives no port, and nothing but a text gives one. -/
def GivesPort (spec : Json) (key other : String) (port : Option String) : Prop :=
  ∀ p, port = some p ↔ p ≠ "" ∧ (spec.member? key = some (.str p) ∨
    spec.member? key = none ∧ spec.member? other = some (.str p))

variable {spec : Json} {members : List (String × Json)} {key other s t : String}

/-- What stands under a key that names something is not blank. -/
theorem notBlank_of_names (h : ∃ t, spec.Names key t) (hs : spec.member? key = some (.str s)) :
    Text.isBlank s = false := by
  obtain ⟨t, ht, hblank⟩ := h
  obtain rfl : t = s := Json.str.inj (Option.some.inj (ht.symm.trans hs))
  exact hblank

theorem Names.isObject (h : spec.Names key s) : spec.IsObject := by
  cases spec with
  | obj members => exact ⟨members, rfl⟩
  | _ => exact nomatch h.1

theorem text?_eq_some_iff {j : Json} : j.text? = some s ↔ j = .str s := by
  cases j with
  | str t => exact ⟨fun h => congrArg _ (Option.some.inj h), fun h => congrArg _ (Json.str.inj h)⟩
  | _ => constructor <;> rintro ⟨⟩

end Json

open Json (Names LeavesOut GivesPort)

section Members

variable {members : List (String × Json)} {key other s : String}

theorem Node.requiredText?_eq_some_iff :
    requiredText? members key = some s ↔ (Json.obj members).Names key s := by
  have hfound : (Json.lookup key members).bind Json.text? = some s
      ↔ Json.lookup key members = some (.str s) := by
    rw [Option.bind_eq_some_iff]
    constructor
    · rintro ⟨j, hj, htext⟩
      rwa [← Json.text?_eq_some_iff.mp htext]
    · intro h
      exact ⟨.str s, h, rfl⟩
  unfold requiredText?
  show _ ↔ Json.lookup key members = some (.str s) ∧ _
  rw [← hfound]
  -- a text that is found is refused only if it is blank
  cases (Json.lookup key members).bind Json.text? with
  | none => exact ⟨nofun, nofun⟩
  | some t =>
    dsimp only
    cases hblank : Text.isBlank t with
    | true =>
      refine ⟨nofun, ?_⟩
      rintro ⟨ht, hs⟩
      rw [← Option.some.inj ht, hblank] at hs
      exact nomatch hs
    | false =>
      refine ⟨fun h => ⟨h, ?_⟩, fun h => h.1⟩
      rw [← Option.some.inj h]
      exact hblank

theorem Node.requiredText?_eq_none (h : ∀ s, ¬ (Json.obj members).Names key s) :
    requiredText? members key = none := by
  cases hfound : requiredText? members key with
  | none => rfl
  | some s => exact absurd (requiredText?_eq_some_iff.mp hfound) (h s)

/-- What is given is what stands under the key, unless that is `null`. -/
theorem Node.given?_cases (members : List (String × Json)) (key : String) :
    ((Json.obj members).LeavesOut key ∧ given? members key = none) ∨
      ∃ j, (Json.obj members).member? key = some j ∧ j ≠ .null ∧ given? members key = some j := by
  unfold given?
  show (Json.lookup key members = none ∨ _) ∧ _ ∨ ∃ j, Json.lookup key members = some j ∧ _
  cases hfound : Json.lookup key members with
  | none => exact .inl ⟨.inl rfl, rfl⟩
  | some j =>
    by_cases hnull : j = .null
    · subst hnull
      exact .inl ⟨.inr hfound, rfl⟩
    · refine .inr ⟨j, rfl, hnull, ?_⟩
      cases j <;> first | rfl | exact absurd rfl hnull

theorem Edge.givesPort_specPort? (members : List (String × Json)) (key other : String) :
    (Json.obj members).GivesPort key other (specPort? members key other) := by
  intro p
  -- the other key counts only where the first is left out, whatever stands under the first
  have hfound : ((Json.lookup key members).or (Json.lookup other members)).bind Json.text? = some p
      ↔ Json.lookup key members = some (.str p) ∨
        Json.lookup key members = none ∧ Json.lookup other members = some (.str p) := by
    rw [Option.bind_eq_some_iff]
    simp only [Option.or_eq_some_iff, Json.text?_eq_some_iff, exists_eq_right]
  show _ ↔ p ≠ "" ∧ (Json.lookup key members = some (.str p) ∨
    Json.lookup key members = none ∧ Json.lookup other members = some (.str p))
  rw [← hfound]
  unfold specPort?
  cases ((Json.lookup key members).or (Json.lookup other members)).bind Json.text? with
  | none => exact ⟨nofun, fun h => nomatch h.2⟩
  | some t =>
    dsimp only
    -- an empty name is read as no port
    by_cases hempty : t = ""
    · subst hempty
      refine ⟨nofun, ?_⟩
      rintro ⟨hp, h⟩
      exact absurd (Option.some.inj h).symm hp
    · rw [if_neg (by simpa using hempty)]
      constructor
      · intro h
        exact ⟨Option.some.inj h ▸ hempty, h⟩
      · exact fun h => h.2

end Members

/-! ### One node -/

namespace Node

/-- **A specification that a node can be read from.** -/
structure Acceptable (spec : Json) : Prop where
  object : spec.IsObject
  id : ∃ id, spec.Names "id" id
  type : ∃ type, spec.Names "type" type
  position : ∀ j, spec.member? "position" = some j → j ≠ .null →
    ∃ p, Decoder.ofJson Position.decoder j = .ok p

/-- **The node that a specification is of**: it has the fields of the specification as they are there,
and its own for data and a position that are left out. -/
structure Specified (spec : Json) (n : Node) : Prop where
  id : spec.member? "id" = some (.str n.id)
  type : spec.member? "type" = some (.str n.type)
  data : spec.LeavesOut "data" ∧ n.data = Json.empty ∨
    n.data ≠ .null ∧ spec.member? "data" = some n.data
  position : spec.LeavesOut "position" ∧ n.position = .origin ∨
    ∃ j, spec.member? "position" = some j ∧ Decoder.ofJson Position.decoder j = .ok n.position

/-- **What is wrong with a specification of a node**, the first thing if there are several. -/
inductive Offends (spec : Json) : GraphFault → Prop
  | object (h : ¬ spec.IsObject) : Offends spec .nodeNotObject
  | id (hobject : spec.IsObject) (h : ∀ id, ¬ spec.Names "id" id) :
      Offends spec (.nodeLacks none "id")
  | type {id : String} (hid : spec.Names "id" id) (h : ∀ type, ¬ spec.Names "type" type) :
      Offends spec (.nodeLacks (some id) "type")
  | position {id type : String} {j : Json} {cause : DecodeError} (hid : spec.Names "id" id)
      (htype : spec.Names "type" type) (hj : spec.member? "position" = some j) (hnull : j ≠ .null)
      (h : Decoder.ofJson Position.decoder j = .error cause) : Offends spec (.badPosition id cause)

variable {spec : Json} {e : GraphFault}

theorem acceptable_or_offends (spec : Json) : Acceptable spec ∨ ∃ e, Offends spec e := by
  by_cases hobject : spec.IsObject
  swap
  · exact .inr ⟨_, .object hobject⟩
  by_cases hid : ∃ id, spec.Names "id" id
  swap
  · exact .inr ⟨_, .id hobject (not_exists.mp hid)⟩
  by_cases htype : ∃ type, spec.Names "type" type
  swap
  · exact .inr ⟨_, .type hid.choose_spec (not_exists.mp htype)⟩
  by_cases hposition : ∀ j, spec.member? "position" = some j → j ≠ .null →
      ∃ p, Decoder.ofJson Position.decoder j = .ok p
  · exact .inl ⟨hobject, hid, htype, hposition⟩
  · -- there is a position, and it does not decode
    push Not at hposition
    obtain ⟨j, hj, hnull, hnone⟩ := hposition
    cases hdecoded : Decoder.ofJson Position.decoder j with
    | ok p => exact absurd hdecoded (hnone p)
    | error cause =>
      exact .inr ⟨_, .position hid.choose_spec htype.choose_spec hj hnull hdecoded⟩

/-- **From a specification that is acceptable the node is read** that it is of. -/
theorem Acceptable.exists_ofSpec (h : Acceptable spec) :
    ∃ n, ofSpec spec = .ok n ∧ Specified spec n := by
  obtain ⟨members, rfl⟩ := h.object
  obtain ⟨id, hid⟩ := h.id
  obtain ⟨type, htype⟩ := h.type
  have hdata : ∃ data, (given? members "data").getD Json.empty = data ∧
      ((Json.obj members).LeavesOut "data" ∧ data = Json.empty ∨
        data ≠ .null ∧ (Json.obj members).member? "data" = some data) := by
    rcases given?_cases members "data" with ⟨hout, hnone⟩ | ⟨j, hj, hnull, hsome⟩
    · exact ⟨Json.empty, by rw [hnone]; rfl, .inl ⟨hout, rfl⟩⟩
    · exact ⟨j, by rw [hsome]; rfl, .inr ⟨hnull, hj⟩⟩
  obtain ⟨data, hdata, hgiven⟩ := hdata
  unfold ofSpec
  dsimp only
  rw [requiredText?_eq_some_iff.mpr hid, requiredText?_eq_some_iff.mpr htype, hdata]
  -- what is left is the position: it may be left out, or else it decodes
  rcases given?_cases members "position" with ⟨hout, hnone⟩ | ⟨j, hj, hnull, hsome⟩
  · rw [hnone]
    exact ⟨⟨id, type, data, .origin⟩, rfl, hid.1, htype.1, hgiven, .inl ⟨hout, rfl⟩⟩
  · obtain ⟨p, hp⟩ := h.position j hj hnull
    rw [hsome]
    dsimp only
    rw [hp]
    exact ⟨⟨id, type, data, p⟩, rfl, hid.1, htype.1, hgiven, .inr ⟨j, hj, hp⟩⟩

theorem Offends.ofSpec (h : Offends spec e) : ofSpec spec = .error e := by
  cases h with
  | object hobject =>
    cases spec with
    | obj members => exact absurd ⟨members, rfl⟩ hobject
    | _ => rfl
  | id hobject hid =>
    obtain ⟨members, rfl⟩ := hobject
    unfold Node.ofSpec
    dsimp only
    rw [requiredText?_eq_none hid]
    rfl
  | type hid htype =>
    obtain ⟨members, rfl⟩ := hid.isObject
    unfold Node.ofSpec
    dsimp only
    rw [requiredText?_eq_some_iff.mpr hid, requiredText?_eq_none htype]
    rfl
  | @position id type j cause hid htype hj hnull hcause =>
    -- a position counts only if it is given and not null
    obtain ⟨members, rfl⟩ := hid.isObject
    have hgiven : given? members "position" = some j := by
      rcases given?_cases members "position" with ⟨hout, -⟩ | ⟨j', hj', -, hsome⟩
      · rcases hout with hnone | hnone
        · exact nomatch hnone.symm.trans hj
        · exact absurd (Option.some.inj (hj.symm.trans hnone)) hnull
      · rw [hsome, Option.some.inj (hj'.symm.trans hj)]
    unfold Node.ofSpec
    dsimp only
    rw [requiredText?_eq_some_iff.mpr hid, requiredText?_eq_some_iff.mpr htype, hgiven]
    dsimp only
    rw [hcause]
    rfl

theorem judges : Judges ofSpec Acceptable Specified Offends :=
  ⟨acceptable_or_offends, fun _ => Acceptable.exists_ofSpec, fun _ _ => Offends.ofSpec⟩

end Node

/-! ### One edge -/

namespace Edge

/-- **A specification that an edge can be read from.** -/
structure Acceptable (spec : Json) : Prop where
  object : spec.IsObject
  id : ∃ id, spec.Names "id" id
  source : ∃ source, spec.Names "source" source
  target : ∃ target, spec.Names "target" target

/-- **The edge that a specification is of.** -/
structure Specified (spec : Json) (e : Edge) : Prop where
  id : spec.member? "id" = some (.str e.id)
  source : spec.member? "source" = some (.str e.source)
  target : spec.member? "target" = some (.str e.target)
  sourcePort : spec.GivesPort "sourceHandle" "source_handle" e.sourcePort
  targetPort : spec.GivesPort "targetHandle" "target_handle" e.targetPort

/-- **What is wrong with a specification of an edge**, the first thing if there are several. -/
inductive Offends (spec : Json) : GraphFault → Prop
  | object (h : ¬ spec.IsObject) : Offends spec .edgeNotObject
  | id (hobject : spec.IsObject) (h : ∀ id, ¬ spec.Names "id" id) :
      Offends spec (.edgeLacks none "id")
  | source {id : String} (hid : spec.Names "id" id) (h : ∀ source, ¬ spec.Names "source" source) :
      Offends spec (.edgeLacks (some id) "source")
  | target {id source : String} (hid : spec.Names "id" id) (hsource : spec.Names "source" source)
      (h : ∀ target, ¬ spec.Names "target" target) : Offends spec (.edgeLacks (some id) "target")

variable {spec : Json} {e : GraphFault}

theorem acceptable_or_offends (spec : Json) : Acceptable spec ∨ ∃ e, Offends spec e := by
  by_cases hobject : spec.IsObject
  swap
  · exact .inr ⟨_, .object hobject⟩
  by_cases hid : ∃ id, spec.Names "id" id
  swap
  · exact .inr ⟨_, .id hobject (not_exists.mp hid)⟩
  by_cases hsource : ∃ source, spec.Names "source" source
  swap
  · exact .inr ⟨_, .source hid.choose_spec (not_exists.mp hsource)⟩
  by_cases htarget : ∃ target, spec.Names "target" target
  · exact .inl ⟨hobject, hid, hsource, htarget⟩
  · exact .inr ⟨_, .target hid.choose_spec hsource.choose_spec (not_exists.mp htarget)⟩

/-- **From a specification that is acceptable the edge is read** that it is of. -/
theorem Acceptable.exists_ofSpec (h : Acceptable spec) :
    ∃ e, ofSpec spec = .ok e ∧ Specified spec e := by
  obtain ⟨members, rfl⟩ := h.object
  obtain ⟨id, hid⟩ := h.id
  obtain ⟨source, hsource⟩ := h.source
  obtain ⟨target, htarget⟩ := h.target
  unfold ofSpec
  dsimp only
  rw [Node.requiredText?_eq_some_iff.mpr hid, Node.requiredText?_eq_some_iff.mpr hsource,
    Node.requiredText?_eq_some_iff.mpr htarget]
  exact ⟨_, rfl, hid.1, hsource.1, htarget.1, givesPort_specPort? _ _ _,
    givesPort_specPort? _ _ _⟩

theorem Offends.ofSpec (h : Offends spec e) : ofSpec spec = .error e := by
  cases h with
  | object hobject =>
    cases spec with
    | obj members => exact absurd ⟨members, rfl⟩ hobject
    | _ => rfl
  | id hobject hid =>
    obtain ⟨members, rfl⟩ := hobject
    unfold Edge.ofSpec
    dsimp only
    rw [Node.requiredText?_eq_none hid]
    rfl
  | source hid hsource =>
    obtain ⟨members, rfl⟩ := hid.isObject
    unfold Edge.ofSpec
    dsimp only
    rw [Node.requiredText?_eq_some_iff.mpr hid, Node.requiredText?_eq_none hsource]
    rfl
  | target hid hsource htarget =>
    obtain ⟨members, rfl⟩ := hid.isObject
    unfold Edge.ofSpec
    dsimp only
    rw [Node.requiredText?_eq_some_iff.mpr hid, Node.requiredText?_eq_some_iff.mpr hsource,
      Node.requiredText?_eq_none htarget]
    rfl

theorem judges : Judges ofSpec Acceptable Specified Offends :=
  ⟨acceptable_or_offends, fun _ => Acceptable.exists_ofSpec, fun _ _ => Offends.ofSpec⟩

end Edge

/-! ### The whole graph -/

namespace Graph

/-- What stands for the id in each specification. -/
def idsOf (specs : List Json) : List (Option Json) := specs.map (·.member? "id")

/-- **Edges that connect nodes**: their ids are distinct, and each end is the id of a node. -/
structure Connects (nodes edges : List Json) : Prop where
  ids : (idsOf edges).Nodup
  sources : ∀ spec ∈ edges, spec.member? "source" ∈ idsOf nodes
  targets : ∀ spec ∈ edges, spec.member? "target" ∈ idsOf nodes

/-- **Specifications that a graph can be read from.** -/
structure Acceptable (nodes edges : List Json) : Prop where
  node : ∀ spec ∈ nodes, Node.Acceptable spec
  edge : ∀ spec ∈ edges, Edge.Acceptable spec
  ids : (idsOf nodes).Nodup
  connects : Connects nodes edges

/-- **What is wrong with an edge** behind others: its id is among theirs, or else one of its ends is
the id of no node, the source before the target. -/
inductive Clashes (nodes before : List Json) (spec : Json) : GraphFault → Prop
  | id {id : String} (hid : spec.member? "id" = some (.str id))
      (h : spec.member? "id" ∈ idsOf before) : Clashes nodes before spec (.duplicateEdge id)
  | source {id source : String} (hid : spec.member? "id" = some (.str id))
      (hnew : spec.member? "id" ∉ idsOf before)
      (hsource : spec.member? "source" = some (.str source))
      (h : spec.member? "source" ∉ idsOf nodes) :
      Clashes nodes before spec (.unknownEndpoint id source)
  | target {id target : String} (hid : spec.member? "id" = some (.str id))
      (hnew : spec.member? "id" ∉ idsOf before) (hsource : spec.member? "source" ∈ idsOf nodes)
      (htarget : spec.member? "target" = some (.str target))
      (h : spec.member? "target" ∉ idsOf nodes) :
      Clashes nodes before spec (.unknownEndpoint id target)

/-- **The first fault of specifications**: in a node, in an edge, in the id of a node that occurs before,
or in an edge that connects no nodes. -/
inductive FirstFault (nodes edges : List Json) : GraphFault → Prop
  | node {before after : List Json} {spec : Json} {e : GraphFault}
      (hnodes : nodes = before ++ spec :: after) (hbefore : ∀ s ∈ before, Node.Acceptable s)
      (h : Node.Offends spec e) : FirstFault nodes edges e
  | edge {before after : List Json} {spec : Json} {e : GraphFault}
      (hnodes : ∀ s ∈ nodes, Node.Acceptable s) (hedges : edges = before ++ spec :: after)
      (hbefore : ∀ s ∈ before, Edge.Acceptable s) (h : Edge.Offends spec e) :
      FirstFault nodes edges e
  | repetition {before after : List Json} {spec : Json} {id : String}
      (hnodes : ∀ s ∈ nodes, Node.Acceptable s) (hedges : ∀ s ∈ edges, Edge.Acceptable s)
      (hsplit : nodes = before ++ spec :: after) (hbefore : (idsOf before).Nodup)
      (hid : spec.member? "id" = some (.str id)) (h : spec.member? "id" ∈ idsOf before) :
      FirstFault nodes edges (.duplicateNode id)
  | clash {before after : List Json} {spec : Json} {e : GraphFault}
      (hnodes : ∀ s ∈ nodes, Node.Acceptable s) (hedges : ∀ s ∈ edges, Edge.Acceptable s)
      (hids : (idsOf nodes).Nodup) (hsplit : edges = before ++ spec :: after)
      (hbefore : Connects nodes before) (h : Clashes nodes before spec e) :
      FirstFault nodes edges e

/-! ### Specifications and what has been read from them -/

/-- A text as what stands under a key. -/
def asMember (s : String) : Option Json := some (.str s)

theorem mem_map_asMember {ids : List String} {s : String} :
    asMember s ∈ ids.map asMember ↔ s ∈ ids := by
  simp [asMember]

theorem asMember_injective : Function.Injective asMember :=
  fun _ _ h => Json.str.inj (Option.some.inj h)

/-- What stands under a key in specifications is what has been read from there. -/
theorem map_member?_eq {β : Type} {R : Json → β → Prop} {key : String} {text : β → String}
    {specs : List Json} {l : List β} (h : List.Forall₂ R specs l)
    (hR : ∀ spec b, R spec b → spec.member? key = some (.str (text b))) :
    specs.map (·.member? key) = (l.map text).map asMember := by
  induction h with
  | nil => rfl
  | cons hab _ ih => exact congrArg₂ List.cons (hR _ _ hab) ih

/-- A list that is compared with another one member by member is split where the other one is. -/
theorem exists_split_of_forall₂ {α β : Type} {R : α → β → Prop} {l : List α} {before after : List β}
    {b : β} (h : List.Forall₂ R l (before ++ b :: after)) :
    ∃ before' a after', l = before' ++ a :: after' ∧ List.Forall₂ R before' before ∧ R a b := by
  induction before generalizing l with
  | nil =>
    obtain ⟨a, rest, hab, -, rfl⟩ := List.forall₂_cons_right_iff.mp h
    exact ⟨[], a, rest, rfl, .nil, hab⟩
  | cons c before ih =>
    obtain ⟨a, rest, hac, hrest, rfl⟩ := List.forall₂_cons_right_iff.mp h
    obtain ⟨before', a', after', rfl, hbefore, hab⟩ := ih hrest
    exact ⟨a :: before', a', after', rfl, .cons hac hbefore, hab⟩

variable {nodes edges : List Json} {ns : List Node} {es : List Edge} {fault : GraphFault}

theorem idsOf_nodes (hns : List.Forall₂ Node.Specified nodes ns) :
    idsOf nodes = (ns.map (·.id)).map asMember :=
  map_member?_eq hns fun _ _ h => h.id

theorem idsOf_edges (hes : List.Forall₂ Edge.Specified edges es) :
    idsOf edges = (es.map (·.id)).map asMember :=
  map_member?_eq hes fun _ _ h => h.id

theorem mem_idsOf_nodes (hns : List.Forall₂ Node.Specified nodes ns) {id : String} :
    some (Json.str id) ∈ idsOf nodes ↔ id ∈ ns.map (·.id) := by
  rw [idsOf_nodes hns]
  exact mem_map_asMember

theorem mem_idsOf_edges (hes : List.Forall₂ Edge.Specified edges es) {id : String} :
    some (Json.str id) ∈ idsOf edges ↔ id ∈ es.map (·.id) := by
  rw [idsOf_edges hes]
  exact mem_map_asMember

/-- Nodes that have been read pass the check if their specifications have distinct ids. -/
theorem checkNodes_specified_iff (hnodes : ∀ s ∈ nodes, Node.Acceptable s)
    (hns : List.Forall₂ Node.Specified nodes ns) :
    checkNodes [] ns = .ok () ↔ (idsOf nodes).Nodup := by
  have hblank : ∀ n ∈ ns, Text.isBlank n.id = false := by
    intro n hn
    obtain ⟨before, after, rfl⟩ := List.append_of_mem hn
    obtain ⟨before', spec, after', rfl, -, hspec⟩ := exists_split_of_forall₂ hns
    obtain ⟨id, hid, hfull⟩ := (hnodes spec (by simp)).id
    obtain rfl : n.id = id := Json.str.inj (Option.some.inj (hspec.id.symm.trans hid))
    exact hfull
  rw [checkNodes_eq_ok_iff, idsOf_nodes hns, List.nodup_map_iff asMember_injective]
  exact ⟨fun h => h.2.1, fun h => ⟨hblank, h, fun _ _ => List.not_mem_nil⟩⟩

/-- Edges that have been read pass the check if their specifications connect nodes. -/
theorem checkEdges_specified_iff (hns : List.Forall₂ Node.Specified nodes ns)
    (hes : List.Forall₂ Edge.Specified edges es) :
    checkEdges (ns.map (·.id)) [] es = .ok () ↔ Connects nodes edges := by
  -- under either key, what the specifications name are ids of nodes just as what the edges do
  have hends : ∀ {key : String} {text : Edge → String},
      (∀ spec e, Edge.Specified spec e → spec.member? key = some (.str (text e))) →
      ((∀ spec ∈ edges, spec.member? key ∈ idsOf nodes) ↔
        ∀ e ∈ es, text e ∈ ns.map (·.id)) := by
    intro key text htext
    have hmap := map_member?_eq hes htext
    calc (∀ spec ∈ edges, spec.member? key ∈ idsOf nodes)
        ↔ ∀ found ∈ edges.map (·.member? key), found ∈ idsOf nodes := List.forall_mem_map.symm
      _ ↔ ∀ e ∈ es, asMember (text e) ∈ idsOf nodes := by
          rw [hmap, List.forall_mem_map, List.forall_mem_map]
      _ ↔ ∀ e ∈ es, text e ∈ ns.map (·.id) := by
          refine forall₂_congr fun e _ => ?_
          exact mem_idsOf_nodes hns
  have hsources := hends fun _ _ h => h.source
  have htargets := hends fun _ _ h => h.target
  have hids : (idsOf edges).Nodup ↔ (es.map (·.id)).Nodup := by
    rw [idsOf_edges hes, List.nodup_map_iff asMember_injective]
  rw [checkEdges_eq_ok_iff]
  constructor
  · rintro ⟨hnodup, -, h⟩
    exact ⟨hids.mpr hnodup, hsources.mpr fun e he => (h e he).1, htargets.mpr fun e he => (h e he).2⟩
  · intro h
    exact ⟨hids.mp h.ids, fun _ _ => List.not_mem_nil,
      fun e he => ⟨hsources.mp h.sources e he, htargets.mp h.targets e he⟩⟩

/-- The first node that repeats an id is read from the first specification that does. -/
theorem checkNodes_specified_eq_error_iff (hnodes : ∀ s ∈ nodes, Node.Acceptable s)
    (hns : List.Forall₂ Node.Specified nodes ns) :
    checkNodes [] ns = .error fault ↔
      ∃ before spec after id, nodes = before ++ spec :: after ∧ (idsOf before).Nodup ∧
        spec.member? "id" = some (.str id) ∧ spec.member? "id" ∈ idsOf before ∧
        fault = .duplicateNode id := by
  rw [checkNodes_eq_error_iff]
  constructor
  · rintro ⟨before', n, after', rfl, hpass, hfault⟩
    obtain ⟨before, spec, after, rfl, hbefore, hspec⟩ := exists_split_of_forall₂ hns
    have hdistinct := (checkNodes_specified_iff
      (fun s hs => hnodes s (List.mem_append_left _ hs)) hbefore).mp hpass
    cases hfault with
    | blank hblank =>
      -- a specification with a blank id would not have been read
      obtain ⟨id, hid, hfull⟩ := (hnodes spec (by simp)).id
      obtain rfl : n.id = id := Json.str.inj (Option.some.inj (hspec.id.symm.trans hid))
      exact nomatch hblank.symm.trans hfull
    | repetition _ hseen =>
      refine ⟨before, spec, after, n.id, rfl, hdistinct, hspec.id, ?_, rfl⟩
      rw [hspec.id, mem_idsOf_nodes hbefore]
      exact hseen.resolve_left List.not_mem_nil
  · rintro ⟨before, spec, after, id, rfl, hdistinct, hid, hseen, rfl⟩
    obtain ⟨before', n, after', rfl, hbefore, hspec⟩ := exists_split_of_forall₂ hns.flip
    obtain rfl : n.id = id := Json.str.inj (Option.some.inj (hspec.id.symm.trans hid))
    have hpass := (checkNodes_specified_iff
      (fun s hs => hnodes s (List.mem_append_left _ hs)) hbefore.flip).mpr hdistinct
    obtain ⟨id, hid', hfull⟩ := (hnodes spec (by simp)).id
    obtain rfl : n.id = id := Json.str.inj (Option.some.inj (hspec.id.symm.trans hid'))
    refine ⟨before', n, after', rfl, hpass, .repetition hfull (.inr ?_)⟩
    rwa [hspec.id, mem_idsOf_nodes hbefore.flip] at hseen

/-- What is wrong with an edge is wrong with its specification. -/
theorem clashes_iff (hns : List.Forall₂ Node.Specified nodes ns) {before : List Json}
    {before' : List Edge} (hbefore : List.Forall₂ Edge.Specified before before') {spec : Json}
    {e : Edge} (he : Edge.Specified spec e) :
    EdgeFault (ns.map (·.id)) [] before' e fault ↔ Clashes nodes before spec fault := by
  -- the three questions of the check, asked of the specifications and of what was read from them
  have hseen : spec.member? "id" ∈ idsOf before ↔ (e.id ∈ [] ∨ e.id ∈ before'.map (·.id)) := by
    rw [he.id, mem_idsOf_edges hbefore]
    exact (or_iff_right List.not_mem_nil).symm
  have hsource : spec.member? "source" ∈ idsOf nodes ↔ e.source ∈ ns.map (·.id) := by
    rw [he.source, mem_idsOf_nodes hns]
  have htarget : spec.member? "target" ∈ idsOf nodes ↔ e.target ∈ ns.map (·.id) := by
    rw [he.target, mem_idsOf_nodes hns]
  constructor
  · rintro (h | ⟨hid, h⟩ | ⟨hid, hknown, h⟩)
    · exact .id he.id (hseen.mpr h)
    · exact .source he.id (mt hseen.mp hid) he.source (mt hsource.mp h)
    · exact .target he.id (mt hseen.mp hid) (hsource.mpr hknown) he.target (mt htarget.mp h)
  · -- a fault names the texts that stand in the specification, and these are those of the edge
    have htext : ∀ {key s t : String}, spec.member? key = some (.str s) →
        spec.member? key = some (.str t) → s = t :=
      fun hs ht => Json.str.inj (Option.some.inj (hs.symm.trans ht))
    intro h
    cases h with
    | id hid h =>
      obtain rfl := htext he.id hid
      exact .repetition (hseen.mp h)
    | source hid hnew hs h =>
      obtain rfl := htext he.id hid
      obtain rfl := htext he.source hs
      exact .source (mt hseen.mpr hnew) (mt hsource.mpr h)
    | target hid hnew hknown ht h =>
      obtain rfl := htext he.id hid
      obtain rfl := htext he.target ht
      exact .target (mt hseen.mpr hnew) (hsource.mp hknown) (mt htarget.mpr h)

/-- The first edge that clashes is read from the first specification that does. -/
theorem checkEdges_specified_eq_error_iff (hns : List.Forall₂ Node.Specified nodes ns)
    (hes : List.Forall₂ Edge.Specified edges es) :
    checkEdges (ns.map (·.id)) [] es = .error fault ↔
      ∃ before spec after, edges = before ++ spec :: after ∧ Connects nodes before ∧
        Clashes nodes before spec fault := by
  rw [checkEdges_eq_error_iff]
  constructor
  · rintro ⟨before', e, after', rfl, hpass, hfault⟩
    obtain ⟨before, spec, after, rfl, hbefore, hspec⟩ := exists_split_of_forall₂ hes
    exact ⟨before, spec, after, rfl, (checkEdges_specified_iff hns hbefore).mp hpass,
      (clashes_iff hns hbefore hspec).mp hfault⟩
  · rintro ⟨before, spec, after, rfl, hconnects, hclash⟩
    obtain ⟨before', e, after', rfl, hbefore, hspec⟩ := exists_split_of_forall₂ hes.flip
    exact ⟨before', e, after', rfl, (checkEdges_specified_iff hns hbefore.flip).mpr hconnects,
      (clashes_iff hns hbefore.flip hspec).mpr hclash⟩

/-! ### Reading a graph -/

theorem validated_eq_error_iff {g : Graph} : g.validated = .error fault ↔
    checkNodes [] g.nodes = .error fault ∨
      checkNodes [] g.nodes = .ok () ∧ checkEdges g.nodeIds [] g.edges = .error fault := by
  have hvalidate : g.validated = .error fault ↔ g.validate = .error fault := by
    rw [validated, bind_eq_error_iff]
    refine or_iff_left ?_
    rintro ⟨-, -, ⟨⟩⟩
  rw [hvalidate, validate, bind_eq_error_iff]
  refine or_congr_right ⟨?_, ?_⟩
  · rintro ⟨_, hok, h⟩
    exact ⟨hok, h⟩
  · rintro ⟨hok, h⟩
    exact ⟨(), hok, h⟩

/-- What follows the passes over the nodes and the edges. -/
theorem ofSpecs_eq_validated (hns : nodes.mapM Node.ofSpec = .ok ns)
    (hes : edges.mapM Edge.ofSpec = .ok es) : ofSpecs nodes edges = validated ⟨ns, es⟩ := by
  unfold ofSpecs
  rw [hns, ok_bind, hes, ok_bind]

theorem firstFault_of_ofSpecs (h : ofSpecs nodes edges = .error fault) :
    FirstFault nodes edges fault := by
  rcases bind_eq_error_iff.mp h with hnode | ⟨ns, hns, h⟩
  · obtain ⟨before, spec, after, hsplit, hbefore, hspec⟩ := Node.judges.mapM_eq_error_iff.mp hnode
    exact .node hsplit hbefore hspec
  obtain ⟨hnodes, hns⟩ := Node.judges.of_mapM hns
  rcases bind_eq_error_iff.mp h with hedge | ⟨es, hes, h⟩
  · obtain ⟨before, spec, after, hsplit, hbefore, hspec⟩ := Edge.judges.mapM_eq_error_iff.mp hedge
    exact .edge hnodes hsplit hbefore hspec
  obtain ⟨hedges, hes⟩ := Edge.judges.of_mapM hes
  -- all nodes and edges have been read, so it is how they fit together
  rcases validated_eq_error_iff.mp h with hnode | ⟨hpass, hedge⟩
  · obtain ⟨before, spec, after, id, hsplit, hbefore, hid, hseen, rfl⟩ :=
      (checkNodes_specified_eq_error_iff hnodes hns).mp hnode
    exact .repetition hnodes hedges hsplit hbefore hid hseen
  · obtain ⟨before, spec, after, hsplit, hbefore, hclash⟩ :=
      (checkEdges_specified_eq_error_iff hns hes).mp hedge
    have hdistinct := (checkNodes_specified_iff hnodes hns).mp hpass
    exact .clash hnodes hedges hdistinct hsplit hbefore hclash

theorem FirstFault.ofSpecs (h : FirstFault nodes edges fault) :
    Graph.ofSpecs nodes edges = .error fault := by
  -- each fault comes up in its own pass of the reader, once the passes before it have succeeded
  cases h with
  | node hsplit hbefore h =>
    have hnode := Node.judges.mapM_eq_error_iff.mpr ⟨_, _, _, hsplit, hbefore, h⟩
    exact bind_eq_error_iff.mpr (.inl hnode)
  | edge hnodes hsplit hbefore h =>
    obtain ⟨ns, hns⟩ := Node.judges.exists_mapM hnodes
    have hedge := Edge.judges.mapM_eq_error_iff.mpr ⟨_, _, _, hsplit, hbefore, h⟩
    exact bind_eq_error_iff.mpr (.inr ⟨ns, hns, bind_eq_error_iff.mpr (.inl hedge)⟩)
  | repetition hnodes hedges hsplit hbefore hid hseen =>
    obtain ⟨ns, hns⟩ := Node.judges.exists_mapM hnodes
    obtain ⟨es, hes⟩ := Edge.judges.exists_mapM hedges
    rw [ofSpecs_eq_validated hns hes]
    exact validated_eq_error_iff.mpr (.inl ((checkNodes_specified_eq_error_iff hnodes
      (Node.judges.of_mapM hns).2).mpr ⟨_, _, _, _, hsplit, hbefore, hid, hseen, rfl⟩))
  | clash hnodes hedges hids hsplit hbefore hclash =>
    obtain ⟨ns, hns⟩ := Node.judges.exists_mapM hnodes
    obtain ⟨es, hes⟩ := Edge.judges.exists_mapM hedges
    have hspecified := (Node.judges.of_mapM hns).2
    rw [ofSpecs_eq_validated hns hes]
    refine validated_eq_error_iff.mpr (.inr ⟨?_, ?_⟩)
    · exact (checkNodes_specified_iff hnodes hspecified).mpr hids
    · exact (checkEdges_specified_eq_error_iff hspecified (Edge.judges.of_mapM hes).2).mpr
        ⟨_, _, _, hsplit, hbefore, hclash⟩

/-- **The fault that the reader tells of** is the first one there is. -/
theorem ofSpecs_eq_error_iff : ofSpecs nodes edges = .error fault ↔ FirstFault nodes edges fault :=
  ⟨firstFault_of_ofSpecs, FirstFault.ofSpecs⟩

/-- **What is read** is read from acceptable specifications, one node or edge from each. -/
theorem specified_of_ofSpecs {g : Graph} (h : ofSpecs nodes edges = .ok g) :
    Acceptable nodes edges ∧ List.Forall₂ Node.Specified nodes g.nodes ∧
      List.Forall₂ Edge.Specified edges g.edges := by
  obtain ⟨ns, hns, h⟩ := bind_eq_ok_iff.mp h
  obtain ⟨es, hes, h⟩ := bind_eq_ok_iff.mp h
  obtain ⟨rfl, hg⟩ := validated_eq_ok_iff.mp h
  obtain ⟨hnodes, hns⟩ := Node.judges.of_mapM hns
  obtain ⟨hedges, hes⟩ := Edge.judges.of_mapM hes
  obtain ⟨_, hpass, hedge⟩ := bind_eq_ok_iff.mp (validate_eq_ok_iff.mpr hg)
  exact ⟨⟨hnodes, hedges, (checkNodes_specified_iff hnodes hns).mp hpass,
    (checkEdges_specified_iff hns hes).mp hedge⟩, hns, hes⟩

/-- Acceptable specifications are read. -/
theorem Acceptable.exists_ofSpecs (h : Acceptable nodes edges) : ∃ g, ofSpecs nodes edges = .ok g := by
  cases hread : ofSpecs nodes edges with
  | ok g => exact ⟨g, rfl⟩
  | error fault =>
    obtain ⟨ns, hns⟩ := Node.judges.exists_mapM h.node
    obtain ⟨es, hes⟩ := Edge.judges.exists_mapM h.edge
    rw [ofSpecs_eq_validated hns hes] at hread
    obtain ⟨-, hns⟩ := Node.judges.of_mapM hns
    obtain ⟨-, hes⟩ := Edge.judges.of_mapM hes
    -- neither of the last two passes finds anything
    rcases validated_eq_error_iff.mp hread with hnode | ⟨-, hedge⟩
    · exact nomatch hnode.symm.trans ((checkNodes_specified_iff h.node hns).mpr h.ids)
    · exact nomatch hedge.symm.trans ((checkEdges_specified_iff hns hes).mpr h.connects)

/-- **Which specifications make a graph.**  A graph is read from specifications if and only if they are
acceptable.  Then it has one node or edge for each, in their order, with the fields that are there.
Otherwise the graph is malformed, by the first fault there is in nodes, in edges, in the ids of nodes
and in what edges connect. -/
theorem ofSpecs_judges (nodes edges : List Json) :
    ((∃ g, ofSpecs nodes edges = .ok g) ↔ Acceptable nodes edges) ∧
      (∀ g, ofSpecs nodes edges = .ok g →
        List.Forall₂ Node.Specified nodes g.nodes ∧ List.Forall₂ Edge.Specified edges g.edges) ∧
      ∀ e, (ofSpecs nodes edges).mapError Fault.malformedGraph = .error e ↔
        ∃ fault, e = .malformedGraph fault ∧ FirstFault nodes edges fault := by
  refine ⟨⟨?_, Acceptable.exists_ofSpecs⟩, fun g hg => (specified_of_ofSpecs hg).2, fun e => ?_⟩
  · rintro ⟨g, hg⟩
    exact (specified_of_ofSpecs hg).1
  · rw [mapError_eq_error_iff]
    constructor
    · rintro ⟨fault, hfault, rfl⟩
      exact ⟨fault, rfl, ofSpecs_eq_error_iff.mp hfault⟩
    · rintro ⟨fault, rfl, hfault⟩
      exact ⟨fault, ofSpecs_eq_error_iff.mpr hfault, rfl⟩

/-- A graph with one node, from a specification with blanks around its id and nothing but its type
besides. -/
example : ofSpecs [Json.ofMembers [("id", .str " a "), ("type", .str "end")]] []
    = .ok ⟨[⟨" a ", "end", Json.empty, .origin⟩], []⟩ := rfl

end Graph

end Flowgraph
