import Flowgraph.Proofs.Concurrent.StoredGraphs
import Flowgraph.Proofs.Session.Alone
import Flowgraph.Proofs.Store.Intact

/-!
# Updates, one at a time

What an update makes of a flow is the flow with the fields that are given in place of those that were
there (`Update.Makes`).  There is such a flow if and only if each specification that is given can be
read and the halves of the graph go together, and then it is what the update puts into the store
(`Update.apply_eq_ok_iff`).  Made of this flow once more, it is this flow (`Update.Makes.again`).

With nothing else going on, an update of a flow in a store that can be read either replaces this one
flow, and does nothing more when it is repeated, or it fails and leaves everything as it was
(`Flows.update_alone`).  Every store that has been reached from an empty one can be read, as long as
what has been put into its rows can be read there (`System.Reaches.readable`).
-/

namespace Flowgraph

/-! ### What an update makes of a flow -/

namespace Update

/-- **One half of a graph after an update**: what its specifications are read as, or what was there. -/
inductive Half {α : Type} (read : Json → Except GraphFault α) (kept : List α) :
    Option (List Json) → List α → Prop
  | kept : Half read kept none kept
  | given {specs : List Json} {items : List α}
      (h : List.Forall₂ (fun spec item => read spec = .ok item) specs items) :
      Half read kept (some specs) items

/-- **What an update makes of a flow.**  What is given replaces what was there, unless it is a blank
name, and all else stays. -/
structure Makes (u : Update) (old new : Flow) : Prop where
  name : new.name = match u.name with
    | some name => if Text.isBlank name then old.name else name
    | none => old.name
  description : new.description = u.description.getD old.description
  nodes : Half Node.ofSpec old.graph.nodes u.nodes new.graph.nodes
  edges : Half Edge.ofSpec old.graph.edges u.edges new.graph.edges
  /-- The halves go together if either is given. -/
  checked : (u.nodes.isSome ∨ u.edges.isSome) → new.graph.validate = .ok ()
  id : new.id = old.id
  status : new.status = old.status
  createdAt : new.createdAt = old.createdAt
  lastRun : new.lastRun = old.lastRun

theorem half_eq_ok_iff {α : Type} {read : Json → Except GraphFault α} {kept items : List α}
    {specs : Option (List Json)} : half read kept specs = .ok items ↔ Half read kept specs items := by
  cases specs with
  | none =>
    constructor
    · intro h
      obtain rfl := Except.ok.inj h
      exact .kept
    · rintro ⟨⟩
      rfl
  | some specs =>
    refine mapError_eq_ok_iff.trans (mapM_eq_ok_iff.trans ⟨.given, fun h => ?_⟩)
    cases h with
    | given h => exact h

/-- What an update makes of a half it makes of it again. -/
theorem Half.again {α : Type} {read : Json → Except GraphFault α} {kept items : List α}
    {specs : Option (List Json)} (h : Half read kept specs items) : Half read items specs items := by
  cases h with
  | kept => exact .kept
  | given h => exact .given h

/-- A half has whatever those members have that are read, and those that were there if they stay. -/
theorem Half.forall_mem {α : Type} {read : Json → Except GraphFault α} {kept items : List α}
    {specs : Option (List Json)} (h : Half read kept specs items) {P : α → Prop}
    (hkept : specs = none → ∀ a ∈ kept, P a) (hread : ∀ spec a, read spec = .ok a → P a) :
    ∀ a ∈ items, P a := by
  cases h with
  | kept => exact hkept rfl
  | given h =>
    intro a ha
    obtain ⟨spec, -, hspec⟩ := exists_mem_of_mapM (mapM_eq_ok_iff.mpr h) a ha
    exact hread spec a hspec

variable {u : Update} {old new : Flow}

/-- **An update made once more of what it has made** makes no other flow of it. -/
theorem Makes.again (h : u.Makes old new) : u.Makes new new where
  name := by
    -- a name that is given is not blank the second time either
    cases hname : u.name with
    | none => rfl
    | some name =>
      have hnew := h.name
      rw [hname] at hnew
      dsimp only at hnew ⊢
      split
      · rfl
      · next hblank => rw [hnew, if_neg hblank]
  description := by
    rw [h.description]
    cases u.description <;> rfl
  nodes := h.nodes.again
  edges := h.edges.again
  checked := h.checked
  id := rfl
  status := rfl
  createdAt := rfl
  lastRun := rfl

theorem name_renamed (u : Update) (f : Flow) : (u.renamed f).name = match u.name with
    | some name => if Text.isBlank name then f.name else name
    | none => f.name := by
  rw [renamed]
  cases u.name with
  | none => rfl
  | some name =>
    by_cases hblank : Text.isBlank name = true <;> simp [Option.filter, hblank]

/-- All that an update makes new beside the graph is name and description. -/
theorem Makes.eq_renamed (h : u.Makes old new) : new = { u.renamed old with graph := new.graph } := by
  obtain ⟨id, name, description, graph, status, createdAt, lastRun⟩ := new
  obtain ⟨hname, rfl, -, -, -, rfl, rfl, rfl, rfl⟩ := h
  obtain rfl := hname.trans (u.name_renamed old).symm
  rfl

/-- **What an update makes is what it is applied to yield**, if there is such a flow. -/
theorem apply_eq_ok_iff : u.apply old = .ok new ↔ u.Makes old new := by
  constructor
  · intro h
    -- either no half is given and the graph stays, or both halves are made and checked
    rcases u.apply_cases h with ⟨hnodes, hedges, rfl⟩ | ⟨g, hnodes, hedges, hg, rfl⟩
    · refine ⟨u.name_renamed old, rfl, ?_, ?_, ?_, rfl, rfl, rfl, rfl⟩
      · rw [hnodes]
        exact .kept
      · rw [hedges]
        exact .kept
      · rw [hnodes, hedges]
        exact nofun
    · exact ⟨u.name_renamed old, rfl, half_eq_ok_iff.mp hnodes, half_eq_ok_iff.mp hedges,
        fun _ => Graph.validate_eq_ok_iff.mpr hg, rfl, rfl, rfl, rfl⟩
  · intro h
    have hnew := h.eq_renamed
    by_cases hgiven : (u.nodes.isSome || u.edges.isSome) = true
    · have hchecked := h.checked (by simpa using hgiven)
      rw [apply, if_pos hgiven, half_eq_ok_iff.mpr h.nodes, half_eq_ok_iff.mpr h.edges]
      exact Flow.replaceGraph_eq_ok_iff.mpr ⟨Graph.validate_eq_ok_iff.mp hchecked, hnew⟩
    · -- neither half is given, so both are as they were
      obtain ⟨hnodes, hedges⟩ : u.nodes = none ∧ u.edges = none := by simpa using hgiven
      have hgraph : new.graph = old.graph := by
        obtain ⟨-, -, hkept, hkept', -⟩ := h
        rw [hnodes] at hkept
        rw [hedges] at hkept'
        generalize new.graph = g at hkept hkept'
        obtain ⟨nodes, edges⟩ := g
        cases hkept
        cases hkept'
        rfl
      rw [apply, if_neg hgiven, hnew, hgraph]
      rfl

/-- The only fault of an update is a graph that is not well formed. -/
theorem fault_of_apply {f : Flow} {e : Fault} (h : u.apply f = .error e) :
    ∃ cause, e = .malformedGraph cause := by
  -- a half that is given is read or told as malformed
  have hhalf : ∀ {α : Type} {read : Json → Except GraphFault α} {kept : List α}
      {specs : Option (List Json)}, half read kept specs = .error e →
        ∃ cause, e = .malformedGraph cause := by
    intro α read kept specs hspecs
    cases specs with
    | none => exact nomatch hspecs
    | some specs =>
      obtain ⟨cause, -, rfl⟩ := mapError_eq_error_iff.mp hspecs
      exact ⟨cause, rfl⟩
  unfold apply at h
  dsimp only at h
  split at h
  · rcases bind_eq_error_iff.mp h with hn | ⟨nodes, -, h⟩
    · exact hhalf hn
    rcases bind_eq_error_iff.mp h with he | ⟨edges, -, h⟩
    · exact hhalf he
    rcases bind_eq_error_iff.mp h with hg | ⟨g, -, h⟩
    · obtain ⟨cause, -, rfl⟩ := mapError_eq_error_iff.mp hg
      exact ⟨cause, rfl⟩
    · exact nomatch h
  · exact nomatch h

end Update

/-! ### With nothing else going on -/

namespace Flows

variable {w : World} {id : String} {u : Update} {old new : Flow}

theorem update_run_alone (id : String) (u : Update) (w : World) :
    World.run (update id u).run w = World.run (amend id u (w.store.get id)).run w := by
  have hget : ∀ n, Request.get id ≠ .wait n := nofun
  rw [update_run, World.run_ask hget]
  rfl

theorem update_of_absent (h : w.store.get id = .ok none) :
    World.run (update id u).run w = (.error (.flowNotFound id), w) := by
  rw [update_run_alone, h]
  rfl

theorem update_of_error (h : w.store.get id = .ok (some old)) {e : Fault}
    (happly : u.apply old = .error e) : World.run (update id u).run w = (.error e, w) := by
  rw [update_run_alone, h]
  simp only [amend, happly]
  rfl

/-- An update that has been made is stored, and what it replies is loaded again. -/
theorem update_of_ok (h : w.store.get id = .ok (some old)) (happly : u.apply old = .ok new)
    {store : Store} (hstore : w.store.update new = (.ok true, store)) :
    World.run (update id u).run w = (found id (store.get id), { w with store }) := by
  have hupdate : ∀ n, Request.update new ≠ .wait n := nofun
  have hget : ∀ n, Request.get id ≠ .wait n := nofun
  have hanswer : w.answer false (.update new) = (.ok true, { w with store }) := by
    rw [World.answer, hstore]
    rfl
  rw [update_run_alone, h, amend_run happly, World.run_ask hupdate, hanswer]
  show World.run (get id).run _ = _
  rw [get_run, World.run_ask hget]
  rfl

/-- **An update that is over**, with nothing else going on. -/
structure Updated (id : String) (u : Update) (w : World) (r : Except Fault Flow) (w' : World) :
    Prop where
  /-- It succeeds if the flow is there and it makes something of it. -/
  ok_iff : (∃ new, r = .ok new) ↔ ∃ old new, w.store.get id = .ok (some old) ∧ u.Makes old new
  /-- It replies what it has made of the flow, which is all that has changed. -/
  made : ∀ old new, w.store.get id = .ok (some old) → u.Makes old new →
    r = .ok new ∧ w.store.Replaces w'.store id new ∧ w'.store.entries = w.store.entries
  /-- To repeat it replies the same and changes nothing. -/
  again : ∀ new, r = .ok new → World.run (update id u).run w' = (.ok new, w')
  /-- Where it fails nothing has changed, and the fault says whether the flow is there. -/
  failed : ∀ e, r = .error e → w' = w ∧ (e = .flowNotFound id ↔ w.store.get id = .ok none) ∧
    (w.store.get id ≠ .ok none → ∃ cause, e = .malformedGraph cause)

/-- Where the flow is not there the update is over. -/
theorem updated_of_absent (hget : w.store.get id = .ok none) :
    Updated id u w (.error (.flowNotFound id)) w where
  ok_iff := by
    refine ⟨nofun, ?_⟩
    rintro ⟨old, new, h, -⟩
    exact nomatch hget.symm.trans h
  made old new h _ := nomatch hget.symm.trans h
  again := nofun
  failed := by
    rintro e ⟨⟩
    exact ⟨rfl, iff_of_true rfl hget, fun h => absurd hget h⟩

/-- Where nothing can be made of the flow the update is over. -/
theorem updated_of_error (hget : w.store.get id = .ok (some old)) {e : Fault}
    (happly : u.apply old = .error e) : Updated id u w (.error e) w := by
  -- an update makes at most one flow of one, and here it makes none
  have hnone : ∀ old' new, w.store.get id = .ok (some old') → ¬ u.Makes old' new := by
    intro old' new h hmakes
    obtain rfl := Option.some.inj (Except.ok.inj (h.symm.trans hget))
    exact nomatch happly.symm.trans (Update.apply_eq_ok_iff.mpr hmakes)
  obtain ⟨cause, rfl⟩ := Update.fault_of_apply happly
  refine ⟨⟨nofun, ?_⟩, fun old' new h hmakes => absurd hmakes (hnone old' new h), nofun, ?_⟩
  · rintro ⟨old', new, h, hmakes⟩
    exact absurd hmakes (hnone old' new h)
  · rintro _ ⟨⟩
    have hpresent : w.store.get id ≠ .ok none := fun h => nomatch hget.symm.trans h
    exact ⟨rfl, iff_of_false nofun hpresent, fun _ => ⟨cause, rfl⟩⟩

/-- Where what is made of the flow has been put in its place the update is over, and to repeat it
changes nothing if to put this in again changes nothing. -/
theorem updated_of_ok (hget : w.store.get id = .ok (some old)) (hmakes : u.Makes old new)
    {store : Store} (hreplaces : w.store.Replaces store id new)
    (hentries : store.entries = w.store.entries) (hagain : store.update new = (.ok true, store)) :
    Updated id u w (.ok new) { w with store } where
  ok_iff := iff_of_true ⟨new, rfl⟩ ⟨old, new, hget, hmakes⟩
  made := by
    intro old' new' h hmakes'
    obtain rfl := Option.some.inj (Except.ok.inj (h.symm.trans hget))
    -- what is made of one flow is one flow
    obtain rfl := Except.ok.inj
      ((Update.apply_eq_ok_iff.mpr hmakes).symm.trans (Update.apply_eq_ok_iff.mpr hmakes'))
    exact ⟨rfl, hreplaces, hentries⟩
  again := by
    rintro _ ⟨⟩
    rw [update_of_ok hreplaces.get_self (Update.apply_eq_ok_iff.mpr hmakes.again) hagain,
      hreplaces.get_self]
    rfl
  failed := nofun

/-- **An update alone on a store that can be read**, of well-formed graphs. -/
theorem update_alone (hw : w.store.Readable) (hsound : w.store.Sound) (id : String) (u : Update)
    (hnew : w.store.isRows = true → ∀ old new, w.store.get id = .ok (some old) → u.Makes old new →
      new.graph.Writable) :
    ∃ r w', World.run (update id u).run w = (r, w') ∧ Updated id u w r w' := by
  rcases hw.get_cases id with hget | ⟨old, hget⟩
  · exact ⟨_, _, update_of_absent hget, updated_of_absent hget⟩
  cases happly : u.apply old with
  | error e => exact ⟨_, _, update_of_error hget happly, updated_of_error hget happly⟩
  | ok new =>
    have hmakes := Update.apply_eq_ok_iff.mp happly
    -- what is stored is well formed, and legible where that is needed, so it is read back
    have hwf : new.graph.WellFormed :=
      Update.wellFormed_of_apply (hsound.wellFormed_of_get hget) happly
    have hreads : w.store.ReadsDefinition new := by
      cases hstore : w.store with
      | memory m => trivial
      | rows m => exact ⟨hwf, hnew (by rw [hstore]; rfl) old new hget hmakes⟩
    obtain ⟨store, hstored, hreplaces, hentries, hagain⟩ := hw.orderly.update_replaces hget
      hmakes.id hmakes.status hmakes.createdAt hmakes.lastRun hreads
    refine ⟨.ok new, { w with store }, ?_, updated_of_ok hget hmakes hreplaces hentries hagain⟩
    rw [update_of_ok hget happly hstored, hreplaces.get_self]
    rfl

end Flows

/-! ### In every store that is reached -/

/-- Whatever answer a request gets, a store that can be read stays so, and of its kind. -/
theorem Answers.readable {rules : Rules} {isCancelled : Bool} {w w' : World} {q : Request}
    {a : q.Answer} (h : Answers rules isCancelled w q a w') (hw : w.store.Readable)
    (hsound : q.StoresSound) (hwritable : w.store.isRows = true → q.ChangesFlows → q.Writable) :
    w'.store.Readable ∧ w'.store.isRows = w.store.isRows := by
  cases h with
  | answered => exact ⟨World.answer_readable hw _ hsound hwritable, World.answer_isRows ..⟩
  | elapsed | refused => exact ⟨hw, rfl⟩

namespace System

variable {w : World} {s : System}

/-- **Every store that has been reached can be read**, if what has been put into rows can be read
there, and all its graphs are well formed. -/
theorem Reaches.readable (hw : w.store = .memory .empty ∨ w.store = .rows .empty)
    (hs : Reaches .closed (.idle w) s)
    (hwritable : w.store = .rows .empty → ∀ q ∈ s.asked, q.ChangesFlows → q.Writable) :
    s.world.store.Readable ∧ s.world.store.Sound ∧
      (s.world.store.isRows = true → w.store = .rows .empty) := by
  obtain ⟨horder, hnone, hrows⟩ := Store.orderly_of_empty hw
  -- three things are kept at once: sound graphs, legible rows, and the kind of the store
  obtain ⟨⟨hstore, hreadable, hkind⟩, -⟩ := hs.of_asked
    (P := fun v => v.store.Sound ∧ v.store.Readable ∧ v.store.isRows = w.store.isRows)
    (fun q => w.store.isRows = true → q.ChangesFlows → q.Writable) Call.operation_meets
    (fun v v' hv (hsame : v'.store = v.store) => hsame ▸ hv)
    (fun ha ⟨hsound, hreadable, hkind⟩ hq hqw => by
      obtain ⟨hreadable', hkind'⟩ := ha.readable hreadable hq (hkind ▸ hqw)
      exact ⟨⟨(ha.sound hsound hq).1, hreadable', hkind'.trans hkind⟩, (ha.sound hsound hq).2⟩)
    ⟨Store.sound_of_empty hw, ⟨horder, hnone ▸ nofun⟩, rfl⟩ fun q hq h => hwritable (hrows h) q hq
  exact ⟨hreadable, hstore, fun h => hrows (hkind.symm.trans h)⟩

/-- **An update replaces the fields that it gives, or changes nothing.**  Begin with an empty store of
either kind, and let any calls come in at any time, each of their requests be answered at one moment
and refused at will, as long as what is put into rows can be read there.  Then have a flow updated
with nothing else going on.  The update succeeds if and only if the flow is there, each specification
can be read and the halves of the graph go together; what it replies and leaves in the place of the
flow is the flow with the given fields in it, nothing else has changed, and to repeat the update
changes nothing at all.  Where it fails it leaves everything as it was, and says that the flow is not
there just when it is not, and else that the graph is not well formed. -/
theorem update_exact (hw : w.store = .memory .empty ∨ w.store = .rows .empty)
    (hs : Reaches .closed (.idle w) s)
    (hwritable : w.store = .rows .empty → ∀ q ∈ s.asked, q.ChangesFlows → q.Writable)
    (id : String) (u : Update)
    (hnew : w.store = .rows .empty → ∀ old new, s.world.store.get id = .ok (some old) →
      u.Makes old new → new.graph.Writable) :
    ∃ r w', World.run (Flows.update id u).run s.world = (r, w') ∧
      Flows.Updated id u s.world r w' := by
  obtain ⟨hreadable, hsound, hrows⟩ := hs.readable hw hwritable
  exact Flows.update_alone hreadable hsound id u fun h => hnew (hrows h)

/-- A flow of two nodes. -/
def pair : Flow :=
  .fresh "pair" "Pair" "" ⟨[⟨"start", "trigger", Json.empty, .origin⟩,
    ⟨"stop", "end", Json.empty, .origin⟩], []⟩ ⟨0, 0⟩

/-- The flow is imported, and meanwhile somebody asks for the list. -/
def pairImported : List Move := [.call (.importFlow pair), .call .list, .go 0, .go 1]

/-- An edge between the two nodes, under a blank name. -/
def joined : Update :=
  ⟨some " ", none, none, some [Json.ofMembers
    [("id", .str "in"), ("source", .str "start"), ("target", .str "stop")]]⟩

/-- The flow with the edge, under the name that it has had. -/
def joinedPair : Flow :=
  { pair with graph := { pair.graph with edges := [⟨"in", "start", "stop", none, none⟩] } }

theorem apply_joined : joined.apply pair = .ok joinedPair := by rfl

/-- In rows the edge is stored and the name stays; and no edge is stored where there is no flow. -/
theorem update_exact_joined :
    ∃ s, (idle (.start (.rows .empty) ⟨0, 0⟩)).play? pairImported = some s ∧
      (∃ w', World.run (Flows.update "pair" joined).run s.world = (.ok joinedPair, w') ∧
        World.run (Flows.update "pair" joined).run w' = (.ok joinedPair, w')) ∧
      World.run (Flows.update "none" joined).run s.world
        = (.error (.flowNotFound "none"), s.world) := by
  have hplayed : ((idle (.start (.rows .empty) ⟨0, 0⟩)).play? pairImported).map (fun s =>
      (s.world.store.slot "pair", s.world.store.get "none", s.asked))
        = some (some (.row (.ofFlow pair)), .ok none, [.insert pair, .list]) := by rfl
  -- what the theorem asks for: the flow is there and legible, and no other request changed one
  obtain ⟨s, hs, hfound⟩ := Option.map_eq_some_iff.mp hplayed
  obtain ⟨hslot, hrest⟩ := Prod.mk.inj hfound
  obtain ⟨hnone, hasked⟩ := Prod.mk.inj hrest
  have hpair : (Request.insert pair).Writable := by decide +kernel
  have hget : s.world.store.get "pair" = .ok (some pair) := Store.get_eq_some_iff.mpr
    ⟨_, hslot, Flow.kept_of_writable (Graph.validate_eq_ok_iff.mp rfl) hpair⟩
  have hwritable : ∀ q ∈ s.asked, q.ChangesFlows → q.Writable := by
    rw [hasked]
    exact List.forall_mem_cons.mpr ⟨fun _ => hpair, List.forall_mem_singleton.mpr (absurd · id)⟩
  -- the update of this flow and that of a missing one are two cases of the theorem
  have hupdate := update_exact (.inr rfl) (reaches_of_play? hs) (fun _ => hwritable)
  obtain ⟨r, w', hrun, hupdated⟩ := hupdate "pair" joined fun _ old new h hmakes => by
    obtain rfl := Option.some.inj (Except.ok.inj (hget.symm.trans h))
    obtain rfl := Except.ok.inj (apply_joined.symm.trans (Update.apply_eq_ok_iff.mpr hmakes))
    decide +kernel
  obtain ⟨r₀, w₀, hrun₀, hupdated₀⟩ := hupdate "none" joined fun _ old new h _ =>
    nomatch hnone.symm.trans h
  -- the reply is the flow that the definition of the update gives
  obtain ⟨rfl, -⟩ := hupdated.made pair joinedPair hget (Update.apply_eq_ok_iff.mp apply_joined)
  refine ⟨s, hs, ⟨w', hrun, hupdated.again joinedPair rfl⟩, ?_⟩
  -- the other update finds no flow: it cannot have succeeded, and its fault is that one
  cases r₀ with
  | ok new =>
    obtain ⟨old, new, h, -⟩ := hupdated₀.ok_iff.mp ⟨new, rfl⟩
    exact nomatch hnone.symm.trans h
  | error e =>
    obtain ⟨rfl, hfault, -⟩ := hupdated₀.failed e rfl
    rw [hrun₀, hfault.mpr hnone]

end System

end Flowgraph
