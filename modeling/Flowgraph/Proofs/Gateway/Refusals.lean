import Flowgraph.Gateway.Basic
import Flowgraph.Proofs.Flow.InMemory
import Flowgraph.Proofs.Session.Quiet

/-!
# Refused requests change nothing

A gateway over a store in memory answers requests one at a time.  `Gateway.Serves` tells which
sessions it comes to, with the history of the requests and their responses, and from the history
alone one reads which ids are live: those of the flows that were created and have not been deleted
since (`Gateway.Live`).

What one request does is said by `Gateway.Handled`, and proved route by route.  The live ids are then
those of the stored flows in every session that is come to (`Gateway.Serves.inv`).
-/

namespace Flowgraph

namespace Gateway

/-! ### Requests and what they ask for -/

/-- What the path of a request leads to. -/
def Request.route? (r : Request) : Option Route := Route.ofPath? (Address.path r.address)

/-- The request is for a flow of this id. -/
def Request.IsFor (r : Request) (id : String) : Prop :=
  ∃ part, r.route? = some (.flow part) ∧ idOf part = .ok id

/-- **The request asks for a run** of the flow of this id, with a body that can be decoded or with
none. -/
structure Executes (r : Request) (id : String) : Prop where
  route : ∃ part, r.route? = some (.execute part) ∧ idOf part = .ok id
  method : r.method = "POST"
  body : ∃ ctx, contextOf r = .ok ctx

/-- **The request asks for something that is done with the flow of this id.** -/
inductive Asks (r : Request) (id : String) : Prop
  | load (h : r.IsFor id) (hmethod : r.method = "GET")
  | update (h : r.IsFor id) (hmethod : r.method = "PUT")
      (hbody : ∃ u, bodyOf Update.decoder r = .ok u)
  | delete (h : r.IsFor id) (hmethod : r.method = "DELETE")
  | execute (h : Executes r id)

/-- **A flow has been created** under this id. -/
structure Creates (r : Request) (a : Response) (id : String) : Prop where
  route : r.route? = some .flows
  method : r.method = "POST"
  status : a.status = 201
  content : ∃ j, a.content = .data j ∧ j.member? "id" = some (.str id)

/-- **The flow of this id has been deleted.** -/
structure Deletes (r : Request) (a : Response) (id : String) : Prop where
  route : r.IsFor id
  method : r.method = "DELETE"
  status : a.status = 200

/-- **The id is live**: by the history, the newest request first, a flow has been created under it
and has not been deleted since. -/
def Live (id : String) : List (Request × Response) → Prop
  | [] => False
  | (r, a) :: before => Creates r a id ∨ Live id before ∧ ¬ Deletes r a id

/-- **The sessions that a gateway over an empty store in memory comes to**, one request after the
other.  Between two requests anything may happen that leaves the store alone. -/
inductive Serves (g : Gateway) : List (Request × Response) → Runs → Prop
  | start (clock : Instant) : Serves g [] (Session.start (World.start (.memory .empty) clock))
  | pass {history : List (Request × Response)} {s : Runs} (hs : Serves g history s) {w : World}
      (hw : w.store = s.world.store) : Serves g history { s with world := w }
  | handle {history : List (Request × Response)} {s s' : Runs} (hs : Serves g history s)
      {r : Request} {a : Response} (h : g.handle none r s = (some a, s')) :
      Serves g ((r, a) :: history) s'

/-! ### What one request does -/

/-- A session over a store in memory, with nothing going on in the background. -/
structure Holds (s : Runs) (m : MemoryStore) : Prop where
  quiet : s.IsQuiet
  store : s.world.store = .memory m
  nodup : m.ids.Nodup

/-- **What a request does** to a store in memory, and how it is answered. -/
structure Handled (r : Request) (m : MemoryStore) (a : Response) (m' : MemoryStore) : Prop where
  kept : 400 ≤ a.status ∨ r.method = "GET" → m' = m
  ids : ∀ id, id ∈ m'.ids ↔ Creates r a id ∨ id ∈ m.ids ∧ ¬ Deletes r a id
  notFound : ∀ id, Asks r id → (a.status = 404 ↔ id ∉ m.ids)
  executed : ∀ id, Executes r id → id ∈ m.ids → a.status = 200

section Handled

variable {r : Request} {m m' : MemoryStore} {a : Response}

/-- A request that leaves the store as it is, and is answered as one that creates and deletes
nothing. -/
theorem Handled.untouched (hcreates : ∀ id, ¬ Creates r a id) (hdeletes : ∀ id, ¬ Deletes r a id)
    (hasks : ∀ id, Asks r id → (a.status = 404 ↔ id ∉ m.ids))
    (hexecutes : ∀ id, Executes r id → id ∈ m.ids → a.status = 200) : Handled r m a m where
  kept _ := rfl
  ids id := ⟨fun h => .inr ⟨h, hdeletes id⟩, fun h => h.elim (absurd · (hcreates id)) (·.1)⟩
  notFound := hasks
  executed := hexecutes

/-- **A refused request** leaves the store as it is. -/
theorem Handled.refused (hstatus : 400 ≤ a.status)
    (hasks : ∀ id, Asks r id → (a.status = 404 ↔ id ∉ m.ids))
    (hexecutes : ∀ id, Executes r id → a.status = 404) : Handled r m a m := by
  refine .untouched (fun id h => ?_) (fun id h => ?_) hasks fun id h hid => ?_
  · have := h.status
    omega
  · have := h.status
    omega
  · exact absurd hid ((hasks id (.execute h)).mp (hexecutes id h))

/-- A request that asks for nothing that is done with one flow, and creates none. -/
theorem Handled.of_not_asks (hasks : ∀ id, ¬ Asks r id)
    (hcreates : 400 ≤ a.status ∨ r.method ≠ "POST" ∨ r.route? ≠ some .flows) :
    Handled r m a m := by
  refine .untouched (fun id h => ?_) (fun id h => hasks id (.delete h.route h.method))
    (fun id h => absurd h (hasks id)) fun id h => absurd (.execute h) (hasks id)
  rcases hcreates with hstatus | hmethod | hroute
  · have := h.status
    omega
  · exact hmethod h.method
  · exact hroute h.route

/-- The response to a request for the head alone has no content. -/
theorem Handled.withoutContent (h : Handled r m a m') (hmethod : r.method = "HEAD") :
    Handled r m a.withoutContent m' := by
  have hcreates : ∀ a id, ¬ Creates r a id := by
    intro a id hc
    exact absurd (hmethod.symm.trans hc.method) (by decide)
  have hdeletes : ∀ a id, ¬ Deletes r a id := by
    intro a id hd
    exact absurd (hmethod.symm.trans hd.method) (by decide)
  refine ⟨h.kept, fun id => (h.ids id).trans ?_, h.notFound, h.executed⟩
  simp only [hcreates, hdeletes]

end Handled

/-! ### Doing something with the stored flows -/

theorem le_statusOf (f : Fault) : 400 ≤ statusOf f := by
  cases f <;> simp [statusOf]

section Status

variable {α : Type} (status : Nat) (toJson : α → Json)

theorem status_ofResult_ok (a : α) : (ofResult status toJson (.ok a)).status = status := rfl

theorem status_ofResult_error (f : Fault) :
    (ofResult status toJson (.error f)).status = statusOf f := rfl

/-- Whatever fails is refused. -/
theorem le_status_ofResult (f : Fault) : 400 ≤ (ofResult status toJson (.error f)).status :=
  le_statusOf f

end Status

/-- A part of a path holds the id that it is decoded to. -/
theorem idOf_of_decode? {part id : String} (h : Address.decode? part = some id) :
    idOf part = .ok id := by
  rw [idOf, h]

/-- A part of a path that holds no id is refused. -/
theorem le_status_of_idOf {part : String} {refusal : Response} (h : idOf part = .error refusal) :
    400 ≤ refusal.status := by
  unfold idOf at h
  split at h
  · exact nomatch h
  · obtain rfl := Except.error.inj h
    exact Nat.le_refl 400

/-- A body that is not decoded is refused. -/
theorem le_status_of_bodyOf {α : Type} {d : Decoder α} {r : Request} {refusal : Response}
    (h : bodyOf d r = .error refusal) : 400 ≤ refusal.status := by
  unfold bodyOf at h
  split at h
  · obtain rfl := Except.error.inj h
    show 400 ≤ 415
    omega
  · split at h
    · obtain rfl := Except.error.inj h
      show 400 ≤ 413
      omega
    · split at h
      · exact nomatch h
      · obtain rfl := Except.error.inj h
        exact Nat.le_refl 400
      · obtain rfl := Except.error.inj h
        show 400 ≤ 422
        omega

/-- The data of a flow tells its id. -/
theorem member?_toJson_id (f : Flow) : f.toJson.member? "id" = some (.str f.id) := by
  have hmembers : f.toJson = .obj [("created_at", f.createdAt.toJson),
      ("description", .str f.description), ("edges", .arr (f.graph.edges.map Edge.toJson)),
      ("id", .str f.id), ("last_run", .ofOption (f.lastRun.map Instant.toJson)),
      ("name", .str f.name), ("nodes", .arr (f.graph.nodes.map Node.toJson)),
      ("status", f.status.toJson)] := by
    simp (disch := decide) only [Flow.toJson, Json.ofMembers, Json.insert, List.foldl, if_pos,
      if_neg]
  rw [hmembers]
  rfl

section Perform

variable {s : Runs} {m m' : MemoryStore} {α : Type} {o : Attempt α} {res : Except Fault α}
  {w' : World}

/-- Something that is done in a quiet session is done alone. -/
theorem Holds.perform (h : Holds s m) (hrun : World.run o.run s.world = (res, w'))
    (hstore : w'.store = .memory m') (hids : m'.ids.Nodup) (status : Nat) (toJson : α → Json) :
    ∃ s', Gateway.perform status toJson o s = (some (ofResult status toJson res), s') ∧
      Holds s' m' := by
  refine ⟨s.inWorld w', ?_, h.quiet, hstore, hids⟩
  unfold Gateway.perform Runs.perform
  rw [h.quiet.runForeground, hrun]

end Perform

/-! ### Route by route -/

section Routes

variable {g : Gateway} {r : Request} {s : Runs} {m : MemoryStore}

/-- The response to a request, and what it has done. -/
def Answered (r : Request) (m : MemoryStore) (result : Option Response × Runs) : Prop :=
  ∃ a s' m', result = (some a, s') ∧ Holds s' m' ∧ Handled r m a m'

/-- The requests that ask for something are for a flow or for a run. -/
theorem Asks.route {id : String} (h : Asks r id) :
    ∃ part, (r.route? = some (.flow part) ∨ r.route? = some (.execute part)) ∧
      idOf part = .ok id := by
  cases h with
  | load h _ => exact ⟨h.choose, .inl h.choose_spec.1, h.choose_spec.2⟩
  | update h _ _ => exact ⟨h.choose, .inl h.choose_spec.1, h.choose_spec.2⟩
  | delete h _ => exact ⟨h.choose, .inl h.choose_spec.1, h.choose_spec.2⟩
  | execute h => exact ⟨h.route.choose, .inr h.route.choose_spec.1, h.route.choose_spec.2⟩

/-- Nothing is asked of one flow at any other route. -/
theorem not_asks_of_route {route : Route} (hroute : r.route? = some route)
    (hflow : ∀ part, route ≠ .flow part) (hexecute : ∀ part, route ≠ .execute part) (id : String) :
    ¬ Asks r id := by
  intro hasks
  obtain ⟨part, hpart, -⟩ := hasks.route
  rw [hroute] at hpart
  rcases hpart with hpart | hpart
  · exact hflow part (Option.some.inj hpart)
  · exact hexecute part (Option.some.inj hpart)

/-- A request that is answered without anything being done. -/
theorem Holds.answers_untouched (h : Holds s m) {a : Response} (ha : Handled r m a m) :
    Answered r m (some a, s) := ⟨a, s, m, rfl, h, ha⟩

/-- **To create a flow.** -/
theorem Holds.create (h : Holds s m) (hroute : r.route? = some .flows) (hmethod : r.method = "POST")
    (draft : Draft) : Answered r m (Gateway.perform 201 Flow.toJson (Flows.create draft) s) := by
  have hasks := not_asks_of_route hroute nofun nofun
  rcases Flows.create_inMemory draft h.store with
    ⟨e, w', hrun, hstore⟩ | ⟨flow, w', hrun, hnew, hstore⟩
  · -- the draft is refused, or the id that was made is taken
    obtain ⟨s', hs', hholds⟩ := h.perform hrun (hstore.trans h.store) h.nodup 201 Flow.toJson
    exact ⟨_, s', m, hs', hholds, .of_not_asks hasks (.inl (le_status_ofResult ..))⟩
  · -- one flow more is stored, under an id that was not there
    have hids : (⟨m.flows ++ [flow], m.records⟩ : MemoryStore).ids = m.ids ++ [flow.id] :=
      List.map_append
    have hnodup : (⟨m.flows ++ [flow], m.records⟩ : MemoryStore).ids.Nodup := by
      rw [hids]
      exact h.nodup.append (List.nodup_singleton _) (by simpa using hnew)
    obtain ⟨s', hs', hholds⟩ := h.perform hrun hstore hnodup 201 Flow.toJson
    have hstatus := status_ofResult_ok 201 Flow.toJson flow
    refine ⟨_, s', _, hs', hholds, ?_, fun id => ?_, fun id h => absurd h (hasks id),
      fun id h => absurd (.execute h) (hasks id)⟩
    · rintro (hrefused | hget)
      · omega
      · exact absurd (hmethod.symm.trans hget) (by decide)
    · -- the response names the one id that is new
      have hdeletes : ¬ Deletes r (ofResult 201 Flow.toJson (.ok flow)) id := by
        intro hd
        have := hd.status
        omega
      have hcreates : Creates r (ofResult 201 Flow.toJson (.ok flow)) id ↔ id = flow.id := by
        constructor
        · rintro ⟨-, -, -, j, hj, hid⟩
          obtain rfl := Content.data.inj hj
          rw [member?_toJson_id] at hid
          exact (Json.str.inj (Option.some.inj hid)).symm
        · rintro rfl
          exact ⟨hroute, hmethod, hstatus, _, rfl, member?_toJson_id flow⟩
      rw [hids, List.mem_append, List.mem_singleton, hcreates]
      simp only [hdeletes, not_false_eq_true, and_true]
      exact or_comm

/-- What is done with a flow that is not there. -/
theorem handled_of_not_found {id : String} (hasks : ∀ id', Asks r id' → id' = id)
    (hnone : id ∉ m.ids) {α : Type} (toJson : α → Json) :
    Handled r m (ofResult 200 toJson (.error (.flowNotFound id))) m := by
  refine .refused (le_status_ofResult ..) (fun id' h => ?_) fun _ _ => rfl
  obtain rfl := hasks id' h
  exact ⟨fun _ => hnone, fun _ => rfl⟩

/-- What is done with a flow that is there, and is not to be deleted. -/
theorem handled_of_found {id : String} (hasks : ∀ id', Asks r id' → id' = id) (hmem : id ∈ m.ids)
    (hcreate : r.route? ≠ some .flows) (hdelete : r.method ≠ "DELETE") {m' : MemoryStore}
    (hids : m'.ids = m.ids) (hget : r.method = "GET" → m' = m) {α : Type} (toJson : α → Json)
    (a : α) : Handled r m (ofResult 200 toJson (.ok a)) m' := by
  have hstatus := status_ofResult_ok 200 toJson a
  refine ⟨?_, fun id' => ?_, fun id' h => ?_, fun _ _ _ => hstatus⟩
  · rintro (hrefused | h)
    · omega
    · exact hget h
  · rw [hids]
    exact ⟨fun h => .inr ⟨h, fun hd => hdelete hd.method⟩,
      fun h => h.elim (fun hc => absurd hc.route hcreate) (·.1)⟩
  · -- the flow is there, and the response is not one of not found
    obtain rfl := hasks id' h
    refine ⟨fun h => ?_, fun h => absurd hmem h⟩
    omega

section Flow

variable {part id : String} (hroute : r.route? = some (.flow part)) (hid : idOf part = .ok id)

include hroute hid

/-- A request for a flow asks for something of the one flow. -/
theorem eq_of_isFor {id' : String} (h : r.IsFor id') : id' = id := by
  obtain ⟨part', hroute', hid'⟩ := h
  obtain rfl := Route.flow.inj (Option.some.inj (hroute.symm.trans hroute'))
  exact Except.ok.inj (hid'.symm.trans hid)

theorem eq_of_asks {id' : String} (h : Asks r id') : id' = id := by
  cases h with
  | load h _ => exact eq_of_isFor hroute hid h
  | update h _ _ => exact eq_of_isFor hroute hid h
  | delete h _ => exact eq_of_isFor hroute hid h
  | execute h =>
    obtain ⟨part', hroute', -⟩ := h.route
    exact nomatch hroute.symm.trans hroute'

omit hid in
theorem not_executes {id' : String} : ¬ Executes r id' := by
  rintro ⟨⟨part', hroute', -⟩, -, -⟩
  exact nomatch hroute.symm.trans hroute'

omit hid in
theorem route_ne_flows : r.route? ≠ some .flows := by
  rw [hroute]
  simp

theorem Holds.load (h : Holds s m) (hdelete : r.method ≠ "DELETE") :
    Answered r m (Gateway.perform 200 Flow.toJson (Flows.get id) s) := by
  obtain ⟨res, hrun, hres⟩ := Flows.get_inMemory id h.store
  obtain ⟨s', hs', hholds⟩ := h.perform hrun h.store h.nodup 200 Flow.toJson
  refine ⟨_, s', m, hs', hholds, ?_⟩
  rcases hres with ⟨hnone, rfl⟩ | ⟨hmem, flow, rfl⟩
  · exact handled_of_not_found (fun _ => eq_of_asks hroute hid) hnone _
  · exact handled_of_found (fun _ => eq_of_asks hroute hid) hmem (route_ne_flows hroute) hdelete rfl
      (fun _ => rfl) _ _

theorem Holds.update (h : Holds s m) (hmethod : r.method = "PUT") (u : Update) :
    Answered r m (Gateway.perform 200 Flow.toJson (Flows.update id u) s) := by
  have hdelete : r.method ≠ "DELETE" := by
    rw [hmethod]
    decide
  obtain ⟨res, w', hrun, hres⟩ := Flows.update_inMemory id u h.store
  rcases hres with ⟨hnone, rfl, rfl⟩ | ⟨hmem, ⟨cause, rfl⟩, rfl⟩ | ⟨hmem, ⟨flow, rfl⟩, m', hm', hids⟩
  · -- there is no such flow
    obtain ⟨s', hs', hholds⟩ := h.perform hrun h.store h.nodup 200 Flow.toJson
    exact ⟨_, s', m, hs', hholds, handled_of_not_found (fun _ => eq_of_asks hroute hid) hnone _⟩
  · -- the graph is refused, but the flow is there
    obtain ⟨s', hs', hholds⟩ := h.perform hrun h.store h.nodup 200 Flow.toJson
    have hstatus := status_ofResult_error 200 Flow.toJson (.malformedGraph cause)
    refine ⟨_, s', m, hs', hholds, .refused (le_status_ofResult ..) (fun id' h => ?_)
      fun id' h => absurd h (not_executes hroute)⟩
    obtain rfl := eq_of_asks hroute hid h
    refine ⟨fun h => ?_, fun h => absurd hmem h⟩
    rw [hstatus] at h
    exact absurd h (by simp [statusOf])
  · obtain ⟨s', hs', hholds⟩ := h.perform hrun hm' (hids ▸ h.nodup) 200 Flow.toJson
    refine ⟨_, s', m', hs', hholds, handled_of_found (fun _ => eq_of_asks hroute hid) hmem
      (route_ne_flows hroute) hdelete hids (fun hget => ?_) _ _⟩
    exact absurd (hmethod.symm.trans hget) (by decide)

theorem Holds.delete (h : Holds s m) (hmethod : r.method = "DELETE") (toJson : Unit → Json) :
    Answered r m (Gateway.perform 200 toJson (Flows.delete id) s) := by
  obtain ⟨res, w', hrun, hstore, hres⟩ := Flows.delete_inMemory id h.store
  have hnodup : (m.delete id).ids.Nodup := by
    rw [MemoryStore.ids_delete]
    exact h.nodup.filter _
  obtain ⟨s', hs', hholds⟩ := h.perform hrun hstore hnodup 200 toJson
  rcases hres with ⟨hnone, rfl⟩ | ⟨hmem, rfl⟩
  · -- there is nothing to delete
    rw [MemoryStore.delete_of_not_mem hnone] at hholds
    exact ⟨_, s', m, hs', hholds, handled_of_not_found (fun _ => eq_of_asks hroute hid) hnone _⟩
  · have hstatus := status_ofResult_ok 200 toJson ()
    refine ⟨_, s', _, hs', hholds, ?_, fun id' => ?_, fun id' h => ?_,
      fun id' h => absurd h (not_executes hroute)⟩
    · rintro (hrefused | hget)
      · omega
      · exact absurd (hmethod.symm.trans hget) (by decide)
    · -- just this id is live no longer
      have hdeletes : Deletes r (ofResult 200 toJson (.ok ())) id' ↔ id' = id :=
        ⟨fun hd => eq_of_isFor hroute hid hd.route,
          fun h => ⟨⟨part, hroute, h ▸ hid⟩, hmethod, hstatus⟩⟩
      rw [MemoryStore.ids_delete, List.mem_filter, bne_iff_ne, hdeletes]
      exact ⟨.inr, fun h => h.resolve_left fun hc => route_ne_flows hroute hc.route⟩
    · -- the flow was there, so the request is not answered as one for a missing flow
      obtain rfl := eq_of_asks hroute hid h
      refine ⟨fun h => ?_, fun h => absurd hmem h⟩
      omega

end Flow

/-- **To load, change or delete a flow.** -/
theorem Holds.flow (h : Holds s m) {part : String} (hroute : r.route? = some (.flow part)) :
    Answered r m (g.respond none r s (.flow part)) := by
  cases hid : idOf part with
  | error refusal =>
    -- the path holds no id, so the request asks for nothing
    have hasks : ∀ id, ¬ Asks r id := by
      intro id hasks
      obtain ⟨part', hroute', hid'⟩ := hasks.route
      rw [hroute] at hroute'
      rcases hroute' with hroute' | hroute'
      · obtain rfl := Route.flow.inj (Option.some.inj hroute')
        exact nomatch hid.symm.trans hid'
      · exact nomatch hroute'
    rw [respond, hid]
    exact h.answers_untouched (.of_not_asks hasks (.inl (le_status_of_idOf hid)))
  | ok id =>
    rw [respond, hid]
    show Answered r m (if _ then _ else if _ then _ else _)
    by_cases hput : (r.method == "PUT") = true
    · rw [if_pos hput]
      have hmethod := beq_iff_eq.mp hput
      cases hbody : bodyOf Update.decoder r with
      | ok u => exact h.update hroute hid hmethod u
      | error refusal =>
        -- there is nothing to change the flow to
        have hasks : ∀ id, ¬ Asks r id := by
          intro id' hasks
          cases hasks with
          | load _ hget => exact absurd (hmethod.symm.trans hget) (by decide)
          | update _ _ hu =>
            obtain ⟨u, hu⟩ := hu
            exact nomatch hbody.symm.trans hu
          | delete _ hdelete => exact absurd (hmethod.symm.trans hdelete) (by decide)
          | execute h => exact not_executes hroute h
        exact h.answers_untouched (.of_not_asks hasks (.inl (le_status_of_bodyOf hbody)))
    · rw [if_neg hput]
      by_cases hdelete : (r.method == "DELETE") = true
      · rw [if_pos hdelete]
        exact h.delete hroute hid (beq_iff_eq.mp hdelete) _
      · rw [if_neg hdelete]
        exact h.load hroute hid fun hd => hdelete (beq_iff_eq.mpr hd)

/-- **To list the flows, or to create one.** -/
theorem Holds.flows (h : Holds s m) (hroute : r.route? = some .flows) :
    Answered r m (g.respond none r s .flows) := by
  have hasks := not_asks_of_route hroute nofun nofun
  rw [respond]
  by_cases hpost : (r.method == "POST") = true
  · rw [if_pos hpost]
    cases hbody : bodyOf Draft.decoder r with
    | ok draft => exact h.create hroute (beq_iff_eq.mp hpost) draft
    -- a draft that cannot be decoded is refused
    | error refusal =>
      exact h.answers_untouched (.of_not_asks hasks (.inl (le_status_of_bodyOf hbody)))
  · rw [if_neg hpost]
    obtain ⟨s', hs', hholds⟩ := h.perform (o := Flows.list) rfl h.store h.nodup 200
      fun fs => .arr (fs.map Flow.toJson)
    exact ⟨_, s', m, hs', hholds,
      .of_not_asks hasks (.inr (.inl fun hp => hpost (beq_iff_eq.mpr hp)))⟩

/-- **To list the records of runs.** -/
theorem Holds.executions (h : Holds s m) (hroute : r.route? = some .executions) :
    Answered r m (g.respond none r s .executions) := by
  have hasks := not_asks_of_route hroute nofun nofun
  have hcreates : r.route? ≠ some .flows := by
    rw [hroute]
    simp
  rw [respond]
  -- whatever is listed or refused, it is about no one flow
  cases hfilter : flowFilter r with
  | error refusal => exact h.answers_untouched (.of_not_asks hasks (.inr (.inr hcreates)))
  | ok flow =>
    obtain ⟨s', hs', hholds⟩ := h.perform (o := Flows.executions flow) rfl h.store h.nodup 200
      fun rs => .arr (rs.map Record.toJson)
    exact ⟨_, s', m, hs', hholds, .of_not_asks hasks (.inr (.inr hcreates))⟩

section Execution

variable {part : String} (hroute : r.route? = some (.execute part))

include hroute

/-- What is asked where flows are executed is asked of the flow of the path, and is to run it. -/
theorem executes_of_asks {id : String} (h : Asks r id) : Executes r id ∧ idOf part = .ok id := by
  cases h with
  | execute h =>
    obtain ⟨part', hroute', hid⟩ := h.route
    obtain rfl := Route.execute.inj (Option.some.inj (hroute.symm.trans hroute'))
    exact ⟨h, hid⟩
  | load h _ => exact nomatch hroute.symm.trans h.choose_spec.1
  | update h _ _ => exact nomatch hroute.symm.trans h.choose_spec.1
  | delete h _ => exact nomatch hroute.symm.trans h.choose_spec.1

theorem route_ne_flows_of_execute : r.route? ≠ some .flows := by
  rw [hroute]
  simp

/-- **A run that is waited for** has its result as the response. -/
theorem Holds.run (h : Holds s m) (hmethod : r.method = "POST") {id : String}
    (hid : idOf part = .ok id) (ctx : Context) :
    Answered r m
      (((Runs.execute g.executor id ctx none s).join none s.jobs.length).1.map
          (ofResult 200 fun f => f.record.toJson),
        ((Runs.execute g.executor id ctx none s).join none s.jobs.length).2) := by
  obtain ⟨s', hjoin, hworld, hquiet⟩ := h.quiet.join_spawn (Flows.execute g.executor id ctx).run
  obtain ⟨res, w', hrun, hres⟩ := Flows.execute_inMemory g.executor id ctx h.store h.nodup
  rw [hrun] at hjoin hworld
  have heq : ∀ id', Asks r id' → id' = id := fun id' h =>
    Except.ok.inj ((executes_of_asks hroute h).2.symm.trans hid)
  -- joining a call that has just begun is to run it to its end
  have hgo : (((Runs.execute g.executor id ctx none s).join none s.jobs.length).1.map
        (ofResult 200 fun f => f.record.toJson),
      ((Runs.execute g.executor id ctx none s).join none s.jobs.length).2)
        = (some (ofResult 200 (fun f => f.record.toJson) res), s') :=
    congrArg (fun p : Option (Except Fault Executor.Finished) × Runs =>
      (p.1.map (ofResult 200 fun f : Executor.Finished => f.record.toJson), p.2)) hjoin
  refine ⟨ofResult 200 (fun f : Executor.Finished => f.record.toJson) res, s', ?_⟩
  -- the flow is missing and nothing is stored, or there is a record of its run
  rcases hres with ⟨hnone, rfl, rfl⟩ | ⟨hmem, ⟨fin, rfl⟩, m', hm', hids⟩
  · exact ⟨m, hgo, ⟨hquiet, hworld ▸ h.store, h.nodup⟩, handled_of_not_found heq hnone _⟩
  · refine ⟨m', hgo, ⟨hquiet, hworld ▸ hm', hids ▸ h.nodup⟩, ?_⟩
    refine handled_of_found heq hmem (route_ne_flows_of_execute hroute) ?_ hids (fun hget => ?_) _ _
    · rw [hmethod]
      decide
    · exact absurd (hmethod.symm.trans hget) (by decide)

/-- **To execute a flow.**  The request waits for the run, so that there is a response. -/
theorem Holds.execute (h : Holds s m) (hmethod : r.method = "POST") :
    Answered r m (g.respond none r s (.execute part)) := by
  have hcreates := route_ne_flows_of_execute hroute
  cases hid : idOf part with
  | error refusal =>
    -- the path holds no id, so the request asks for nothing
    rw [respond, hid]
    refine h.answers_untouched (.of_not_asks (fun id h => ?_) (.inr (.inr hcreates)))
    exact nomatch hid.symm.trans (executes_of_asks hroute h).2
  | ok id =>
    rw [respond, hid]
    cases hbody : contextOf r with
    | error refusal =>
      -- there is nothing to run the flow on
      refine h.answers_untouched (.of_not_asks (fun id h => ?_) (.inr (.inr hcreates)))
      obtain ⟨ctx, hctx⟩ := (executes_of_asks hroute h).1.body
      exact nomatch hbody.symm.trans hctx
    | ok ctx => exact h.run hroute hmethod hid ctx

end Execution

/-- Whatever asks for something has a method that its path has. -/
theorem Asks.allowed {id : String} (hasks : Asks r id) {route : Route}
    (hroute : r.route? = some route) :
    r.method ≠ "OPTIONS" ∧ route.methods.contains r.method = true := by
  -- whatever asks for one flow has come to the route of flows
  have hfor : r.IsFor id → ∃ part, route = .flow part := fun h =>
    ⟨_, Option.some.inj (hroute.symm.trans h.choose_spec.1)⟩
  cases hasks with
  | load h hmethod =>
    obtain ⟨part, rfl⟩ := hfor h
    rw [hmethod]
    exact ⟨by decide, rfl⟩
  | update h hmethod _ =>
    obtain ⟨part, rfl⟩ := hfor h
    rw [hmethod]
    exact ⟨by decide, rfl⟩
  | delete h hmethod =>
    obtain ⟨part, rfl⟩ := hfor h
    rw [hmethod]
    exact ⟨by decide, rfl⟩
  | execute h =>
    obtain ⟨part, hpart, -⟩ := h.route
    obtain rfl := Option.some.inj (hroute.symm.trans hpart)
    rw [h.method]
    exact ⟨by decide, rfl⟩

/-- **A request whose route has its method.** -/
theorem Holds.respond (h : Holds s m) {route : Route} (hroute : r.route? = some route)
    (hmethod : route.methods.contains r.method = true) :
    Answered r m (g.respond none r s route) := by
  -- three of the routes tell of the gateway itself
  have hstatic : (∀ part, route ≠ .flow part) → (∀ part, route ≠ .execute part) → route ≠ .flows →
      ∀ a, Handled r m a m := by
    intro hflow hexecute hflows a
    refine .of_not_asks (not_asks_of_route hroute hflow hexecute) (.inr (.inr fun h => ?_))
    exact hflows (Option.some.inj (hroute.symm.trans h))
  cases route with
  | health => exact h.answers_untouched (hstatic nofun nofun nofun _)
  | nodeTypes => exact h.answers_untouched (hstatic nofun nofun nofun _)
  | agents => exact h.answers_untouched (hstatic nofun nofun nofun _)
  | flows => exact h.flows hroute
  | flow part => exact h.flow hroute
  | execute part => exact h.execute hroute (by simpa [Route.methods] using hmethod)
  | executions => exact h.executions hroute

/-- **Every request has a response**, and is handled as it should be. -/
theorem Holds.handle (h : Holds s m) (g : Gateway) (r : Request) :
    Answered r m (g.handle none r s) := by
  unfold Gateway.handle
  cases hroute : Route.ofPath? (Address.path r.address) with
  | none =>
    -- a path that leads nowhere
    refine h.answers_untouched (.of_not_asks (fun id hasks => ?_) (.inr (.inr fun h => ?_)))
    · obtain ⟨part, hpart, -⟩ := hasks.route
      rcases hpart with hpart | hpart
      · exact nomatch hroute.symm.trans hpart
      · exact nomatch hroute.symm.trans hpart
    · exact nomatch hroute.symm.trans h
  | some route =>
    show Answered r m (if _ then _ else if _ then _ else _)
    by_cases hoptions : (r.method == "OPTIONS") = true
    · -- the methods of the path are told, whatever they are
      rw [if_pos hoptions]
      have hmethod := beq_iff_eq.mp hoptions
      refine h.answers_untouched (.of_not_asks (fun id hasks => ?_) (.inr (.inl ?_)))
      · exact (hasks.allowed hroute).1 hmethod
      · rw [hmethod]
        decide
    · rw [if_neg hoptions]
      by_cases hallowed : route.methods.contains r.method = true
      · rw [if_pos hallowed]
        obtain ⟨a, s', m', ha, hholds, hhandled⟩ := h.respond (g := g) hroute hallowed
        rw [ha]
        by_cases hhead : (r.method == "HEAD") = true
        · -- the response is that to a request to load, without its content
          refine ⟨a.withoutContent, s', m', ?_, hholds, hhandled.withoutContent (beq_iff_eq.mp hhead)⟩
          show ((if _ then _ else _), s') = _
          rw [if_pos hhead]
          rfl
        · refine ⟨a, s', m', ?_, hholds, hhandled⟩
          show ((if _ then _ else _), s') = _
          rw [if_neg hhead]
      · -- the path is there, but not under this method
        rw [if_neg hallowed]
        have hrefused : 400 ≤ (Response.blank 405 (some route.allow)).status := by
          show 400 ≤ 405
          omega
        exact h.answers_untouched (.of_not_asks
          (fun id hasks => hallowed (hasks.allowed hroute).2) (.inl hrefused))

end Routes

/-! ### Every request -/

/-- **In every session that a gateway comes to**, nothing goes on in the background, and the live ids
are those of the stored flows. -/
theorem Serves.inv {g : Gateway} {history : List (Request × Response)} {s : Runs}
    (h : g.Serves history s) : ∃ m, Holds s m ∧ ∀ id, id ∈ m.ids ↔ Live id history := by
  -- along the history: what one request has done decides on the live ids after it
  induction h with
  | start clock =>
    refine ⟨.empty, ⟨fun j hj => absurd hj List.not_mem_nil, rfl, List.nodup_nil⟩, fun id => ?_⟩
    exact ⟨fun hid => absurd hid List.not_mem_nil, False.elim⟩
  | pass _ hw ih =>
    obtain ⟨m, hholds, hlive⟩ := ih
    exact ⟨m, ⟨hholds.quiet, hw.trans hholds.store, hholds.nodup⟩, hlive⟩
  | @handle history s s' hs r a hhandle ih =>
    obtain ⟨m, hholds, hlive⟩ := ih
    obtain ⟨a', s'', m', heq, hholds', hhandled⟩ := hholds.handle g r
    obtain ⟨ha, rfl⟩ := Prod.mk.inj (hhandle.symm.trans heq)
    obtain rfl := Option.some.inj ha
    refine ⟨m', hholds', fun id => ?_⟩
    rw [hhandled.ids, hlive]
    rfl

/-- **A refused request changes nothing.**  Whatever requests a gateway over a store in memory has
answered, the next one, whatever it is, has a response, and

* a request that is refused, and one that only loads, leaves the store as it is, flows and log;
* what is asked of the flow of an id is answered by not found just if the id is not live, that is,
  if no flow was created under it or the flow was deleted since;
* to execute a flow whose id is live is always granted, whatever comes of the run. -/
theorem refused_requests_change_nothing (g : Gateway) {history : List (Request × Response)}
    {s : Runs} (h : g.Serves history s) (r : Request) :
    ∃ a s', g.handle none r s = (some a, s') ∧
      (400 ≤ a.status ∨ r.method = "GET" → s'.world.store = s.world.store) ∧
      (∀ id, Asks r id → (a.status = 404 ↔ ¬ Live id history)) ∧
      ∀ id, Executes r id → Live id history → a.status = 200 := by
  obtain ⟨m, hholds, hlive⟩ := h.inv
  obtain ⟨a, s', m', heq, hholds', hhandled⟩ := hholds.handle g r
  refine ⟨a, s', heq, fun hr => ?_, fun id hasks => ?_, fun id hexecutes hid => ?_⟩
  · rw [hholds'.store, hholds.store, hhandled.kept hr]
  · rw [hhandled.notFound id hasks, hlive]
  · exact hhandled.executed id hexecutes ((hlive id).mpr hid)

/-- A gateway without handlers and agents. -/
def bare : Gateway := ⟨⟨.empty, 1⟩, ⟨[]⟩⟩

/-- A request for a new flow, which has no nodes. -/
def nodeless : Request :=
  ⟨"POST", "/api/flows", some "application/json", "\x7b\"name\":\"Idle\"\x7d"⟩

/-- A request for its run. -/
def nodelessRun : Request := ⟨"POST", "/api/flows/flow_0_00000000/execute", none, ""⟩

/-- A request for a flow to be deleted that nobody has created. -/
def lostDeletion : Request := ⟨"DELETE", "/api/flows/lost", none, ""⟩

theorem route?_nodeless : nodeless.route? = some .flows := by
  have hpath : Address.path nodeless.address = "/api/flows" := by decide
  have hparts : "/api/flows".splitOn "/" = ["", "api", "flows"] := by
    rw [String.splitOn, if_neg (by decide)]
    repeat'
      rw [String.splitOnAux]
      simp +decide only [if_true, if_false]
  rw [Request.route?, Route.ofPath?, hpath, hparts]
  rfl

theorem route?_nodelessRun : nodelessRun.route? = some (.execute "flow_0_00000000") := by
  have hpath : Address.path nodelessRun.address = "/api/flows/flow_0_00000000/execute" := by decide
  have hparts : "/api/flows/flow_0_00000000/execute".splitOn "/"
      = ["", "api", "flows", "flow_0_00000000", "execute"] := by
    rw [String.splitOn, if_neg (by decide)]
    repeat'
      rw [String.splitOnAux]
      simp +decide only [if_true, if_false]
  rw [Request.route?, Route.ofPath?, hpath, hparts]
  rfl

theorem route?_lostDeletion : lostDeletion.route? = some (.flow "lost") := by
  have hpath : Address.path lostDeletion.address = "/api/flows/lost" := by decide
  have hparts : "/api/flows/lost".splitOn "/" = ["", "api", "flows", "lost"] := by
    rw [String.splitOn, if_neg (by decide)]
    repeat'
      rw [String.splitOnAux]
      simp +decide only [if_true, if_false]
  rw [Request.route?, Route.ofPath?, hpath, hparts]
  rfl

theorem bodyOf_nodeless : bodyOf Draft.decoder nodeless = .ok ⟨"Idle", "", [], []⟩ := by
  have hname : ∀ cs, Tree.readString ('n' :: 'a' :: 'm' :: 'e' :: '"' :: cs)
      = some (some "name", cs) := fun _ => rfl
  have hidle : ∀ cs, Tree.readString ('I' :: 'd' :: 'l' :: 'e' :: '"' :: cs)
      = some (some "Idle", cs) := fun _ => rfl
  -- the text is read character by character
  have hread : Tree.read nodeless.body = (.obj [("name", .str "Idle")] .strict, some []) := by
    simp +decide [nodeless, Tree.read, Tree.readValue, Tree.readMembers, Tree.readMember,
      Tree.skipGap, Tree.isGap, Tree.limited, hname, hidle]
  have hdecode : Draft.decoder.ofText nodeless.body = .ok ⟨"Idle", "", [], []⟩ := by
    rw [Decoder.ofText, hread]
    rfl
  have htype : (nodeless.contentType.map MediaType.isData).getD false = true := by decide
  have hsize : ¬ bodyLimit < nodeless.body.utf8ByteSize := by decide
  rw [bodyOf, htype]
  show (if _ then _ else if _ then _ else _) = _
  rw [if_neg (by decide), if_neg hsize, hdecode]

/-- The flow is created.  To execute it is granted then, though it has no trigger, and to delete
another one is refused. -/
theorem refused_requests_change_nothing_nodeless :
    ∃ a s, bare.handle none nodeless (Session.start (World.start (.memory .empty) ⟨0, 0⟩))
        = (some a, s) ∧ Creates nodeless a "flow_0_00000000" ∧
      (∃ a' s', bare.handle none nodelessRun s = (some a', s') ∧ a'.status = 200) ∧
      ∃ a' s', bare.handle none lostDeletion s = (some a', s') ∧ a'.status = 404 ∧
        s'.world.store = s.world.store := by
  let flow : Flow := .fresh "flow_0_00000000" "Idle" "" ⟨[], []⟩ ⟨0, 1000⟩
  let a : Response := .data 201 flow.toJson
  let s : Runs := Session.start ⟨.memory ⟨[flow], []⟩, 0, ⟨0, 2000⟩, 1, []⟩
  have hcreated : bare.handle none nodeless (Session.start (World.start (.memory .empty) ⟨0, 0⟩))
      = (some a, s) := by
    have hroute : Route.ofPath? (Address.path nodeless.address) = some .flows := route?_nodeless
    have hrespond : bare.respond none nodeless
        (Session.start (World.start (.memory .empty) ⟨0, 0⟩)) .flows = (some a, s) := by
      rw [respond, if_pos (by decide), bodyOf_nodeless]
      rfl
    rw [Gateway.handle, hroute]
    show (if _ then _ else if _ then _ else _) = _
    rw [if_neg (by decide), if_pos (by decide), hrespond]
    rfl
  -- the store has been reached by one request, which has created this flow
  have hserves : bare.Serves [(nodeless, a)] s := .handle (.start ⟨0, 0⟩) hcreated
  have hcreates : Creates nodeless a "flow_0_00000000" :=
    ⟨route?_nodeless, rfl, rfl, _, rfl, member?_toJson_id flow⟩
  have hlive : Live "flow_0_00000000" [(nodeless, a)] := .inl hcreates
  have hexecutes : Executes nodelessRun "flow_0_00000000" :=
    ⟨⟨_, route?_nodelessRun, idOf_of_decode? (by decide +kernel)⟩, rfl, ⟨_, rfl⟩⟩
  have hasks : Asks lostDeletion "lost" :=
    .delete ⟨_, route?_lostDeletion, idOf_of_decode? (by decide +kernel)⟩ rfl
  -- nothing has been created under the other id
  have hlost : ¬ Live "lost" [(nodeless, a)] := by
    rintro (⟨-, -, -, j, hj, hid⟩ | ⟨hnone, -⟩)
    · obtain rfl := Content.data.inj hj
      rw [member?_toJson_id] at hid
      exact absurd (Json.str.inj (Option.some.inj hid)) (by decide)
    · exact hnone
  obtain ⟨a₁, s₁, hrun, -, -, hgranted⟩ := refused_requests_change_nothing bare hserves nodelessRun
  obtain ⟨a₂, s₂, hdelete, hkept, hnotFound, -⟩ :=
    refused_requests_change_nothing bare hserves lostDeletion
  have hstatus : a₂.status = 404 := (hnotFound "lost" hasks).mpr hlost
  exact ⟨a, s, hcreated, hcreates, ⟨a₁, s₁, hrun, hgranted _ hexecutes hlive⟩,
    a₂, s₂, hdelete, hstatus, hkept (.inl (by omega))⟩

end Gateway

end Flowgraph
