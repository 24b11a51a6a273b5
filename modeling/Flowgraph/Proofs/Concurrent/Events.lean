import Flowgraph.Proofs.Concurrent.System
import Flowgraph.Proofs.Session.Alone

/-!
# The events of a run mirror its record

A run publishes its events at several places: as it starts, at each node, and as it ends, while its
record and the status of its flow are put together elsewhere.  `Executor.Tells` spells out the events
that belong to a record, and `Executor.Ran.tells` says that a run publishes just these.

Runs that go on at the same time publish on one stream, in whatever order.  A call tells of no run
but its own (`Task.Sound.told`), so that the events of one run are found among all others by its id
(`System.Reaches.told`).
-/

namespace Flowgraph

open Interaction (Completes)

/-! ### What a run tells -/

/-- The event is that a flow has another status. -/
def Event.tellsStatus : Event → Bool
  | statusChanged _ _ => true
  | _ => false

namespace Executor

/-- **The events that belong to what a run leaves behind.** -/
inductive Tells (flow : Flow) (fin : Finished) : List Event → Prop
  /-- A run without a trigger tells that it has failed. -/
  | untriggered (htrig : flow.trigger? = none) (hsuccess : fin.record.success = false)
      {failure : Failure} (herror : fin.record.error = some failure) :
      Tells flow fin [.runFailed fin.record.runId flow.id failure.message]
  /-- A run that succeeds tells how many steps it took. -/
  | completed (htrig : flow.trigger?.isSome) (hsuccess : fin.record.success = true)
      (herror : fin.record.error = none) (hstatus : fin.flow.status = .active) :
      Tells flow fin
        ([.statusChanged flow.id .running, .runStarted fin.record.runId flow.id]
          ++ fin.record.steps.map (fun step =>
            .nodeCompleted fin.record.runId flow.id step.nodeId step.nodeType step.port)
          ++ [.runCompleted fin.record.runId flow.id fin.record.steps.length,
            .statusChanged flow.id .active])
  /-- A run that fails tells the text of its failure. -/
  | failed (htrig : flow.trigger?.isSome) (hsuccess : fin.record.success = false)
      {failure : Failure} (herror : fin.record.error = some failure)
      (hstatus : fin.flow.status = .error) :
      Tells flow fin
        ([.statusChanged flow.id .running, .runStarted fin.record.runId flow.id]
          ++ fin.record.steps.map (fun step =>
            .nodeCompleted fin.record.runId flow.id step.nodeId step.nodeType step.port)
          ++ [.runFailed fin.record.runId flow.id failure.message, .statusChanged flow.id .error])

variable {x : Executor} {flow : Flow} {ctx : Context} {t : Transcript} {fin : Finished}

/-- **A run publishes the events that belong to what it leaves behind**, and nothing else. -/
theorem Ran.tells (h : Ran x flow ctx t fin) : Tells flow fin (Transcript.published t) := by
  rw [h.published]
  cases h with
  | idle htrig runId startedAt completedAt logged hfin =>
    subst hfin
    rw [if_neg (by simp [htrig])]
    exact .untriggered htrig rfl rfl
  | @walked v htrig runId startedAt completedAt logged t e fin hwalk hfin =>
    subst hfin
    have hsome : flow.trigger?.isSome := by
      rw [htrig]
      rfl
    rw [if_pos hsome]
    -- success, failure and status are all made of the one fault of the walk
    obtain ⟨progress, fault⟩ := e
    cases fault with
    | none => exact .completed hsome rfl rfl rfl
    | some fault => exact .failed hsome rfl rfl rfl

/-- But for the status of the flow, whatever belongs to a run carries its id. -/
theorem Tells.runId? {events : List Event} (h : Tells flow fin events) {e : Event}
    (he : e ∈ events) : (e.runId? == some fin.record.runId) = !e.tellsStatus := by
  cases h with
  | untriggered =>
    obtain rfl := List.mem_singleton.mp he
    exact beq_self_eq_true _
  | completed | failed =>
    -- but for the first and the last one, which tell of the status, each of them carries the id
    simp only [List.mem_append, List.mem_cons, List.mem_map, List.not_mem_nil, or_false] at he
    obtain ((rfl | rfl) | ⟨step, -, rfl⟩) | (rfl | rfl) := he
    · rfl
    · exact beq_self_eq_true _
    · exact beq_self_eq_true _
    · exact beq_self_eq_true _
    · rfl

end Executor

/-! ### What a call tells -/

namespace Flows

variable {x : Executor} {id : String} {ctx : Context} {t : Transcript}
  {r : Except Fault Executor.Finished}

/-- **What an execution tells**: nothing if it fails, else what its run tells. -/
theorem Executed.told (h : Executed x id ctx t r) :
    ((∃ fault, r = .error fault) ∧ t.published = [] ∧ t.runIds = []) ∨
      ∃ flow fin, r = .ok fin ∧ t.head? = some ⟨.get id, .ok (some flow)⟩ ∧
        Executor.Tells flow fin t.published ∧ t.runIds = [fin.record.runId] := by
  cases h with
  | notLoaded found _ e => exact .inl ⟨⟨e, rfl⟩, rfl, rfl⟩
  | refused flow _ e => exact .inl ⟨⟨e, rfl⟩, rfl, rfl⟩
  | @ran flow before tr after fin hbefore hafter hrun =>
    -- of all the requests of an execution only those of its run publish events or make ids
    have hevents : List.filterMap Transcript.event? _ = tr.filterMap Transcript.event? :=
      filterMap_of_ran _ flow hbefore hafter rfl fun _ _ _ => rfl
    have hids : List.filterMap Transcript.runId? _ = tr.filterMap Transcript.runId? :=
      filterMap_of_ran _ flow hbefore hafter rfl fun _ _ _ => rfl
    refine .inr ⟨flow, fin, rfl, rfl, ?_, hids.trans (Executor.run_ran hrun).runIds⟩
    rw [Transcript.published, hevents]
    exact (Executor.run_ran hrun).tells

end Flows

namespace Task

variable {t : Task}

theorem Sound.published_eq_nil (ht : t.Sound) (h : ∀ x id ctx, t.call ≠ .execute x id ctx) :
    t.past.published = [] := by
  refine ht.filterMap_eq_nil h fun ⟨q, a⟩ hq => ?_
  cases q <;> first | rfl | exact absurd trivial hq

/-- **A call has told nothing, or of one run**, whose id has been made for it. -/
theorem Sound.told (ht : t.Sound) :
    t.past.published = [] ∨
      ∃ runId, t.past.runIds = [runId] ∧
        ∀ e ∈ t.past.published, (e.runId? == some runId) = !e.tellsStatus := by
  by_cases hcall : ∃ x id ctx, t.call = .execute x id ctx
  case neg => exact .inl (ht.published_eq_nil fun x id ctx h => hcall ⟨x, id, ctx, h⟩)
  obtain ⟨x, id, ctx, hcall⟩ := hcall
  -- whatever is still to come, the whole execution tells of one run at most
  obtain ⟨future, res, hexec⟩ := ht.exists_executed hcall
  rcases hexec.told with ⟨-, hnone, -⟩ | ⟨flow, fin, rfl, -, htells, hids⟩
  · rw [Transcript.published_append, List.append_eq_nil_iff] at hnone
    exact .inl hnone.1
  · by_cases hsilent : t.past.published = []
    case pos => exact .inl hsilent
    -- it cannot have told anything before the id was made
    obtain ⟨t₁, t₂, hsplit, hnone, -⟩ := hexec.made
    have hmade : fin.record.runId ∈ t.past.runIds :=
      List.mem_filterMap.mpr ⟨_, Transcript.mem_of_filterMap_ne_nil hsplit hnone hsilent, rfl⟩
    rw [Transcript.runIds_append, List.append_eq_singleton_iff] at hids
    rcases hids with ⟨hnil, -⟩ | ⟨hids, -⟩
    · exact absurd (hnil ▸ hmade) List.not_mem_nil
    · refine .inr ⟨_, hids, fun e he => htells.runId? ?_⟩
      rw [Transcript.published_append]
      exact List.mem_append_left _ he

/-- Whatever a call tells of a run is of one that its id has been made for. -/
theorem Sound.mem_runIds_of_told (ht : t.Sound) {e : Event} (he : e ∈ t.past.published)
    {runId : String} (hid : e.runId? = some runId) : runId ∈ t.past.runIds := by
  rcases ht.told with hnone | ⟨runId', hids, htold⟩
  · exact absurd (hnone ▸ he) List.not_mem_nil
  · have hrun := htold e he
    cases e with
    | statusChanged _ _ => exact nomatch hid
    | scheduleFired _ _ => exact nomatch hid
    | _ =>
      -- the events of a run are left, which carry their id
      rw [hid] at hrun
      rw [hids, Option.some.inj (eq_of_beq hrun)]
      exact List.mem_singleton_self _

/-- **The events with the id of a call's run** are all that it has told, but for the status. -/
theorem Sound.filter_told (ht : t.Sound) {runId : String} (hid : runId ∈ t.past.runIds) :
    (t.past.published.filter fun e => e.runId? == some runId)
      = t.past.published.filter fun e => !e.tellsStatus := by
  rcases ht.told with hnone | ⟨runId', hids, htold⟩
  · rw [hnone]
    rfl
  · rw [hids] at hid
    obtain rfl := List.mem_singleton.mp hid
    exact List.filter_congr htold

end Task

/-! ### The stream of events -/

/-- **Others may change the world at will, and publish as well**, but nothing of a run, and whatever
has been published stays to be heard; the store may refuse anything. -/
def Rules.overheard : Rules :=
  ⟨fun w w' => ∃ others, w'.unread = others ++ w.unread ∧ ∀ e ∈ others, e.runId? = none,
    fun _ => True⟩

namespace System

variable {s s' : System}

/-- What one of the calls has told. -/
def toldBy (s : System) (i : Nat) : List Event := (s.tasks[i]?).elim [] (·.past.published)

theorem toldBy_eq (s : System) (i : Nat) : s.toldBy i = (s.past i).published := by
  unfold toldBy past
  cases s.tasks[i]? <;> rfl

theorem toldBy_of_getElem? {i : Nat} {t : Task} (h : s.tasks[i]? = some t) :
    s.toldBy i = t.past.published := by
  rw [toldBy_eq, past_of_task h]

end System

/-- A request adds to the stream the event that it is for, if it is for one. -/
theorem Answers.unread {isCancelled : Bool} {w w' : World} {q : Request} {a : q.Answer}
    {rules : Rules} (h : Answers rules isCancelled w q a w') :
    w'.unread = (Transcript.event? ⟨q, a⟩).toList ++ w.unread := by
  cases h with
  | answered => exact World.answer_unread w isCancelled q
  | elapsed n => rfl
  | refused _ _ _ _ ha =>
    -- only a change of the store is refused, and that is no event
    cases q <;> first | rfl | exact nomatch ha

namespace System

variable {s s' : System}

/-- **A step adds to the stream what it adds to one of the transcripts**, or what others tell. -/
theorem Step.told (h : Step .overheard s s') :
    ∃ new, s'.world.unread = new.reverse ++ s.world.unread ∧
      (((∀ e ∈ new, e.runId? = none) ∧ ∀ i, s'.toldBy i = s.toldBy i) ∨
        ∃ i, s'.toldBy i = s.toldBy i ++ new ∧ ∀ j ≠ i, s'.toldBy j = s.toldBy j) := by
  simp only [toldBy_eq]
  rcases h.past_cases with ⟨hworld, hsame⟩ | ⟨i, t, q, next, a, -, -, ha, hmore, hothers⟩
  · -- nobody has asked for anything: what is new was told by others, or nothing is
    have hold : ∀ i, (s'.past i).published = (s.past i).published := fun i => by rw [hsame i]
    rcases hworld with hworld | ⟨others, hothers, hnone⟩
    · exact ⟨[], by rw [hworld]; rfl, .inl ⟨nofun, hold⟩⟩
    · refine ⟨others.reverse, by rwa [List.reverse_reverse], .inl ⟨fun e he => ?_, hold⟩⟩
      exact hnone e (List.mem_reverse.mp he)
  · refine ⟨(Transcript.event? ⟨q, a⟩).toList, ?_, .inr ⟨i, ?_, fun j hj => by rw [hothers j hj]⟩⟩
    · -- the stream keeps the newest event first
      have hunread := ha.unread
      cases hevent : Transcript.event? ⟨q, a⟩ <;> simpa [hevent] using hunread
    · rw [hmore, Transcript.published_append, Transcript.published_cons, Transcript.published_nil,
        List.append_nil]

/-- **Events that only one call tells are in the stream as it tells them.** -/
theorem Reaches.told {w : World} (hs : Reaches .overheard (.idle w) s) :
    ∃ told : List Event, s.world.unread = told.reverse ++ w.unread ∧
      ∀ p : Event → Bool, (∀ e, e.runId? = none → p e = false) →
        ∀ i, (∀ j ≠ i, ∀ e ∈ s.toldBy j, p e = false) →
          told.filter p = (s.toldBy i).filter p := by
  -- by induction on the steps, for all such events and all calls at once
  induction hs with
  | refl => exact ⟨[], rfl, fun p _ i _ => rfl⟩
  | @tail s₁ s₂ _ hstep ih =>
    obtain ⟨told, hunread, htold⟩ := ih
    obtain ⟨new, hunread', hnew⟩ := hstep.told
    refine ⟨told ++ new, ?_, fun p hp i hi => ?_⟩
    · rw [hunread', hunread, List.reverse_append, List.append_assoc]
    rw [List.filter_append]
    rcases hnew with ⟨hnone, hsame⟩ | ⟨k, hk, hsame⟩
    · -- others have told something, none of which is of a run
      have hrest := htold p hp i fun j hj e he => hi j hj e (by rwa [hsame])
      have hskip : new.filter p = [] :=
        List.filter_eq_nil_iff.mpr fun e he => by simp [hp e (hnone e he)]
      rw [hrest, hskip, hsame, List.append_nil]
    · -- a call has gone on; what the calls have told before, they still have
      have hkept : ∀ j, ∀ e ∈ s₁.toldBy j, e ∈ s₂.toldBy j := by
        intro j e he
        by_cases hj : j = k
        · subst hj
          rw [hk]
          exact List.mem_append_left _ he
        · rwa [hsame j hj]
      have hrest := htold p hp i fun j hj e he => hi j hj e (hkept j e he)
      by_cases hik : i = k
      · subst hik
        rw [hrest, hk, List.filter_append]
      · have hskip : new.filter p = [] := by
          refine List.filter_eq_nil_iff.mpr fun e he => ?_
          have hmem : e ∈ s₂.toldBy k := hk ▸ List.mem_append_right _ he
          simp [hi k (Ne.symm hik) e hmem]
        rw [hrest, hskip, hsame i hik, List.append_nil]

/-- Where no id of a run has been made twice, no other call tells of a call's run. -/
theorem Reaches.not_told {w : World} (hs : Reaches .overheard (.idle w) s)
    (hids : (s.tasks.flatMap fun t => t.past.runIds).Nodup) {i j : Nat} {t : Task}
    (ht : s.tasks[i]? = some t) {runId : String} (hid : runId ∈ t.past.runIds) (hj : j ≠ i)
    {e : Event} (he : e ∈ s.toldBy j) : (e.runId? == some runId) = false := by
  rw [beq_eq_false_iff_ne]
  intro hrun
  cases htj : s.tasks[j]? with
  | none =>
    rw [toldBy, htj] at he
    exact absurd he List.not_mem_nil
  | some t' =>
    rw [toldBy_of_getElem? htj] at he
    have hid' := (hs.sound (List.mem_of_getElem? htj)).mem_runIds_of_told he hrun
    -- so the id would have been made for both calls
    obtain ⟨hi, rfl⟩ := List.getElem?_eq_some_iff.mp ht
    obtain ⟨hj', rfl⟩ := List.getElem?_eq_some_iff.mp htj
    have hdisjoint := List.pairwise_iff_getElem.mp (List.nodup_flatMap.mp hids).2
    rcases Nat.lt_or_gt_of_ne hj with hlt | hgt
    · exact hdisjoint j i hj' hi hlt hid' hid
    · exact hdisjoint i j hi hj' hgt hid hid'

/-- **The stream of events mirrors the records.**  A run alone, whenever it is cancelled, publishes
just the events that belong to what it leaves behind.  Let any calls go on at the same time, while
others change the world at will and publish what they like, but for events of runs.  Then

* a call that is no execution has told nothing; an execution that is over has failed and told
  nothing, or has told just the events that belong to the flow that it loaded first and to what it
  replies;
* if no id of a run has been made twice, then the events in the stream that carry the id of a call's
  run are all that the call has told, in this order, but for the status of its flow. -/
theorem events_mirror_records :
    (∀ (x : Executor) (flow : Flow) (ctx : Context) (cancelAt : Option Nat) (w : World),
      ∃ told, Executor.Tells flow (World.runAlone cancelAt (x.run flow ctx) w).1 told ∧
        (World.runAlone cancelAt (x.run flow ctx) w).2.unread = told.reverse ++ w.unread) ∧
    ∀ (w : World) (s : System), Reaches .overheard (.idle w) s →
      ∃ told : List Event, s.world.unread = told.reverse ++ w.unread ∧
        (∀ t ∈ s.tasks, (∀ x id ctx, t.call ≠ .execute x id ctx) → t.past.published = []) ∧
        (∀ t ∈ s.tasks, ∀ x id ctx r, t.call = .execute x id ctx → t.rest = .done r →
          ((∃ fault, r = .error fault) ∧ t.past.published = []) ∨
            ∃ flow fin, r = .ok (.finished fin) ∧
              t.past.head? = some ⟨.get id, .ok (some flow)⟩ ∧
              Executor.Tells flow fin t.past.published ∧ t.past.runIds = [fin.record.runId]) ∧
        ((s.tasks.flatMap fun t => t.past.runIds).Nodup →
          ∀ t ∈ s.tasks, ∀ runId ∈ t.past.runIds,
            (told.filter fun e => e.runId? == some runId)
              = t.past.published.filter fun e => !e.tellsStatus) := by
  refine ⟨fun x flow ctx cancelAt w => ?_, fun w s hs => ?_⟩
  · have hrun := World.completes_transcript cancelAt (x.run flow ctx) w
    -- a run alone publishes to the stream what it tells
    exact ⟨_, (Executor.run_ran hrun).tells, World.runAlone_unread cancelAt (x.run flow ctx) w⟩
  obtain ⟨told, hunread, htold⟩ := hs.told
  refine ⟨told, hunread, fun t ht => (hs.sound ht).published_eq_nil, ?_, ?_⟩
  · intro t ht x id ctx r hcall hrest
    obtain ⟨res, hexec, rfl⟩ := (hs.sound ht).executed hcall hrest
    -- an execution has failed without a run, or tells of the one that it has made
    rcases hexec.told with ⟨⟨fault, rfl⟩, hnone, -⟩ | ⟨flow, fin, rfl, hhead, htells, hids⟩
    · exact .inl ⟨⟨fault, rfl⟩, hnone⟩
    · exact .inr ⟨flow, fin, rfl, hhead, htells, hids⟩
  · intro hids t ht runId hid
    obtain ⟨i, hi⟩ := List.mem_iff_getElem?.mp ht
    -- of this one run no other call tells anything
    have hothers := htold (fun e => e.runId? == some runId) (fun e he => by simp [he]) i
      fun j hj e he => hs.not_told hids hi hid hj he
    rw [hothers, toldBy_of_getElem? hi]
    exact (hs.sound ht).filter_told hid

/-- Two executions of one flow that have their requests answered in turn. -/
def inTurn : List Move :=
  let loop : Flow :=
    .fresh "loop" "Loop" "" ⟨[⟨"start", "trigger", Json.empty, .origin⟩],
      [⟨"back", "start", "start", none, none⟩]⟩ ⟨0, 0⟩
  let run : Call := .execute ⟨.empty, 1⟩ "loop" ⟨.str "payload", []⟩
  [.call (.importFlow loop), .go 0, .call run, .call run]
    ++ (List.replicate 14 [.go 1, .go 2]).flatten

/-- Both have told of a run of their own. -/
theorem events_mirror_records_inTurn :
    ∃ s, (idle (.start (.memory .empty) ⟨0, 0⟩)).play? inTurn = some s ∧
      s.tasks.flatMap (fun t => t.past.runIds) = [World.runId 0, World.runId 1] ∧
      s.tasks.map (fun t => t.past.published.length) = [0, 5, 5] ∧
      ∀ t ∈ s.tasks, ∀ runId ∈ t.past.runIds,
        (s.world.unread.reverse.filter fun e => e.runId? == some runId)
          = t.past.published.filter fun e => !e.tellsStatus := by
  have hplayed : ((idle (.start (.memory .empty) ⟨0, 0⟩)).play? inTurn).map (fun s =>
      (s.tasks.flatMap (fun t => t.past.runIds), s.tasks.map (fun t => t.past.published.length)))
      = some ([World.runId 0, World.runId 1], [0, 5, 5]) := by rfl
  obtain ⟨s, hs, hs'⟩ := Option.map_eq_some_iff.mp hplayed
  obtain ⟨hids, hlengths⟩ := Prod.mk.inj hs'
  obtain ⟨told, hunread, -, -, hmirror⟩ :=
    events_mirror_records.2 _ s (reaches_of_play? hs)
  -- each of the two runs has made an id of its own
  have hnodup : (s.tasks.flatMap fun t => t.past.runIds).Nodup := by
    rw [hids]
    decide
  have htold : s.world.unread.reverse = told := by
    rw [hunread]
    simp [World.start]
  exact ⟨s, hs, hids, hlengths, htold ▸ hmirror hnodup⟩

end System

end Flowgraph
