import Flowgraph.Proofs.Concurrent.Isolation
import Flowgraph.Proofs.Interaction.Alike
import Flowgraph.Proofs.Store.InRows

/-!
# Operations in memory and in rows

A world whose store is in memory has a twin whose store is in rows (`World.inRows`).  A request that
fits gets answers in the two that agree, and leaves a world and its twin (`World.answer_inRows`); so
does an operation, step by step (`World.Twins.ask`).

Each request of an operation is answered on its occasion (`World.perform`): whether the operation has
been cancelled, what the clock reads and the number for the next id may be anything then.  An operation
that updates no flow fits by what it asks for alone (`World.twins_of_alike`).  An update brings the
instant of creation with it, which only fits because it has just been loaded (`World.amend_twins`).
-/

namespace Flowgraph

/-! ### Answers that agree -/

/-- **Two results agree**: values as it is said of them, and faults if they are of one kind. -/
inductive Agree {α : Type} (value : α → α → Prop) : Except Fault α → Except Fault α → Prop
  | value {a b : α} (h : value a b) : Agree value (.ok a) (.ok b)
  | fault {e e' : Fault} (h : e.kind = e'.kind) : Agree value (.error e) (.error e')

theorem Agree.refl {α : Type} {value : α → α → Prop} (h : ∀ a, value a a) (r : Except Fault α) :
    Agree value r r := by
  cases r with
  | ok a => exact .value (h a)
  | error e => exact .fault rfl

theorem Agree.map {α β : Type} {value : α → α → Prop} {value' : β → β → Prop} {f : α → β}
    {r r' : Except Fault α} (h : Agree value r r') (hf : ∀ a b, value a b → value' (f a) (f b)) :
    Agree value' (r.map f) (r'.map f) := by
  cases h with
  | value h => exact .value (hf _ _ h)
  | fault h => exact .fault h

/-- Two lists of records have the same data. -/
def Record.SameData (rs rs' : List Record) : Prop := rs.map Record.toJson = rs'.map Record.toJson

/-- **Two answers to a request agree.**  Records are compared by their data; that an id is taken may be
told in different words; and all else is equal. -/
def Request.Agrees : (q : Request) → q.Answer → q.Answer → Prop
  | .insert _, stored, stored' => Agree Eq stored stored'
  | .records _, found, found' => Agree Record.SameData found found'
  | _, a, a' => a = a'

/-- A request whose answers agree only if they are equal. -/
def Request.Plain : Request → Prop
  | .insert _ | .records _ => False
  | _ => True

theorem Request.eq_of_agrees (q : Request) (a a' : q.Answer) (hq : q.Plain) (h : q.Agrees a a') :
    a = a' := by
  cases q <;> first | exact h | exact absurd hq id

/-- **Two replies agree.** -/
def Reply.Agrees : Reply → Reply → Prop
  | .records rs, .records rs' => Record.SameData rs rs'
  | r, r' => r = r'

theorem Reply.agrees_refl (r : Reply) : r.Agrees r := by
  cases r <;> rfl

/-! ### Calls, given answers that agree -/

open Interaction (Alike)

namespace Attempt

variable {α β : Type} {R : α → α → Prop} {S : β → β → Prop}

theorem alike_bind {m m' : Attempt α} {f f' : α → Attempt β}
    (h : Alike Request.Agrees (Agree R) m.run m'.run)
    (hf : ∀ a b, R a b → Alike Request.Agrees (Agree S) (f a).run (f' b).run) :
    Alike Request.Agrees (Agree S) (m >>= f).run (m' >>= f').run := by
  rw [run_bind, run_bind]
  refine h.bind fun r r' hr => ?_
  cases hr with
  | value hab => exact hf _ _ hab
  | fault he => exact .done (.fault he)

/-- An attempt that makes plain requests only is like itself. -/
theorem Meets.alike {m : Attempt α} {promise : α → Prop}
    (hm : m.Meets (fun _ _ => True) Request.Plain promise) (hvalue : ∀ a, R a a) :
    Alike Request.Agrees (Agree R) m.run m.run :=
  Interaction.Meets.alike hm Request.eq_of_agrees (.refl hvalue)

/-- What follows an attempt that makes plain requests only may be compared for each of its values. -/
theorem Meets.alike_bind {m : Attempt α} {promise : α → Prop} {f : α → Attempt β}
    (hm : m.Meets (fun _ _ => True) Request.Plain promise)
    (hf : ∀ a, Alike Request.Agrees (Agree S) (f a).run (f a).run) :
    Alike Request.Agrees (Agree S) (m >>= f).run (m >>= f).run :=
  Attempt.alike_bind (R := Eq) (hm.alike fun _ => rfl) fun a _ heq => heq ▸ hf a

theorem alike_reply {m : Attempt α} {f : α → Reply}
    (h : Alike Request.Agrees (Agree R) m.run m.run) (hf : ∀ a b, R a b → (f a).Agrees (f b)) :
    Alike Request.Agrees (Agree Reply.Agrees) (m.reply f) (m.reply f) :=
  h.bind fun _ _ hr => .done (hr.map hf)

theorem Meets.alike_reply {m : Attempt α} {f : α → Reply} {promise : α → Prop}
    (hm : m.Meets (fun _ _ => True) Request.Plain promise) :
    Alike Request.Agrees (Agree Reply.Agrees) (m.reply f) (m.reply f) :=
  Attempt.alike_reply (R := Eq) (hm.alike fun _ => rfl) fun _ _ heq => heq ▸ Reply.agrees_refl _

end Attempt

namespace Flows

open Attempt (meets_lift meets_ofExcept)

theorem create_alike (draft : Draft) :
    Alike Request.Agrees (Agree Eq) (create draft).run (create draft).run := by
  refine (meets_lift (request_meets trivial)).alike_bind fun id => ?_
  refine (meets_ofExcept fun _ _ => trivial).alike_bind fun graph => ?_
  refine (meets_lift (request_meets trivial)).alike_bind fun createdAt => ?_
  -- that the id is taken may be told in different words, but then nothing is returned
  exact Attempt.alike_bind (Alike.request (Request.insert _)) fun _ _ _ => .done (.value rfl)

theorem importFlow_alike (flow : Flow) :
    Alike Request.Agrees (Agree Eq) (importFlow flow).run (importFlow flow).run := by
  refine (meets_ofExcept fun _ _ => trivial).alike_bind fun _ => ?_
  exact Attempt.alike_bind (Alike.request (Request.insert _)) fun _ _ _ => .done (.value rfl)

end Flows

/-- A run makes plain requests only. -/
theorem Request.plain_of_runAsks {q : Request} (h : Executor.RunAsks q) : q.Plain := by
  cases q <;> first | exact trivial | exact absurd h id

/-- **A call makes the same requests** as long as it is given answers that agree, and then its replies
agree. -/
theorem Call.operation_alike (call : Call) :
    Alike Request.Agrees (Agree Reply.Agrees) call.operation call.operation := by
  cases call with
  | create draft =>
    exact Attempt.alike_reply (Flows.create_alike draft) fun _ _ h => congrArg Reply.flow h
  | importFlow flow =>
    exact Attempt.alike_reply (Flows.importFlow_alike flow) fun _ _ h => congrArg Reply.flow h
  | get id => exact (Flows.get_meets trivial).alike_reply
  | list => exact (Flows.list_meets trivial).alike_reply
  | update id u => exact (Flows.update_meets trivial fun _ _ _ _ => trivial).alike_reply
  | delete id => exact (Flows.delete_meets trivial).alike_reply
  | execute x id ctx =>
    refine (Flows.execute_meets trivial (fun _ _ => trivial) fun flow _ => ?_).alike_reply
    exact Executor.run_meets_of x flow ctx fun _ => Request.plain_of_runAsks
  | executions flow =>
    exact Attempt.alike_reply (Alike.request (Request.records flow)) fun _ _ h => h

/-! ### Worlds in memory and in rows -/

/-- The store in rows; one in rows is as it is. -/
def Store.inRows : Store → Store
  | memory m => rows m.inRows
  | rows s => rows s

/-- A store in memory that is fit for rows. -/
def Store.Fit : Store → Prop
  | memory m => m.Fit
  | rows _ => False

/-- A request to a store in memory puts nothing into it but what is fit for rows. -/
def Request.FitsIn (q : Request) : Store → Prop
  | .memory m => q.Fits m
  | .rows _ => False

theorem Store.Fit.exists_memory {s : Store} (hs : s.Fit) : ∃ m, s = .memory m ∧ m.Fit := by
  cases s with
  | memory m => exact ⟨m, rfl, hs⟩
  | rows s => exact absurd hs id

theorem Store.Fit.fitsIn_get {s : Store} (hs : s.Fit) (id : String) :
    (Request.get id).FitsIn s := by
  obtain ⟨m, rfl, -⟩ := hs.exists_memory
  trivial

/-- **What an update makes of a stored flow fits** in its place. -/
theorem MemoryStore.Fit.fits_update {m : MemoryStore} (hm : m.Fit) {id : String} {u : Update}
    {flow flow' : Flow} (hflow : m.get? id = some flow) (happly : u.apply flow = .ok flow')
    (hwritable : flow'.graph.Writable) : (Request.update flow').Fits m := by
  have hmem : flow ∈ m.flows := List.mem_of_find?_eq_some hflow
  have hsame : flow'.id = flow.id ∧ flow'.createdAt = flow.createdAt := by
    rcases u.apply_cases happly with ⟨-, -, rfl⟩ | ⟨g, -, -, -, rfl⟩ <;> exact ⟨rfl, rfl⟩
  refine ⟨Update.wellFormed_of_apply ?_ happly, hwritable, fun old hold hid => ?_⟩
  · exact FlowRow.wellFormed_of_toFlow (hm.flows flow hmem)
  · obtain rfl := List.inj_on_of_nodup_map hm.ids hold hmem (hid.trans hsame.1)
    exact hsame.2

/-- A request puts no graph into the store but a new one that is well formed. -/
def Request.InsertsSound : Request → Prop
  | .insert f => f.graph.WellFormed
  | .update _ => False
  | _ => True

/-- **A request that can be written fits**, if the record that it adds, if it does, comes under an id of
its own. -/
theorem Request.fitsIn {q : Request} {s : Store} {l : List Record} {a : q.Answer} (hs : s.Fit)
    (hl : s.log? = some l) (hwritable : q.Writable) (hsound : q.InsertsSound)
    (hids : ((l ++ (Transcript.record? ⟨q, a⟩).toList).map (·.runId)).Nodup) : q.FitsIn s := by
  cases s with
  | rows s => exact absurd hs id
  | memory m =>
    obtain rfl := Option.some.inj hl
    show q.Fits m
    cases q with
    | insert f => exact Flow.kept_of_writable hsound hwritable
    | update f => exact absurd hsound id
    | setLife id status lastRun => exact hwritable
    | append r =>
      -- the log already has the other records, and with this one their ids are still all different
      refine ⟨Record.kept_of_writable hwritable, fun hmem => ?_⟩
      rw [List.map_append, List.nodup_append] at hids
      exact hids.2.2 r.runId hmem r.runId (List.mem_singleton.mpr rfl) rfl
    | _ => trivial

/-- **The occasion of a request**: whether the operation has been cancelled by then, what the clock reads
and the number for the next id. -/
structure Occasion where
  cancelled : Bool
  clock : Instant
  made : Nat

namespace World

/-- **The same world with its store in rows.** -/
def inRows (w : World) : World := { w with store := w.store.inRows }

/-- **What a world comes to, and what its twin in rows does**: values that agree, and again a world that
is fit for rows and its twin. -/
structure Twins {α : Type} (value : α → α → Prop) (p p' : α × World) : Prop where
  value : value p.1 p'.1
  world : p'.2 = p.2.inRows
  fit : p.2.store.Fit

/-- **A request that fits is answered alike in memory and in rows.** -/
theorem answer_inRows {w : World} (hw : w.store.Fit) (cancelled : Bool) {q : Request}
    (hq : q.FitsIn w.store) :
    Twins q.Agrees (w.answer cancelled q) (w.inRows.answer cancelled q) := by
  obtain ⟨store, time, clock, made, unread⟩ := w
  cases store with
  | rows s => exact absurd hw id
  | memory m =>
    have hm : m.Fit := hw
    have hfits : q.Fits m := hq
    -- of the twin it is only its store that is another one
    cases q with
    | insert f =>
      -- both refuse an id that is taken, each with its own text
      cases hf : m.has f.id with
      | true =>
        have hrows := MemoryStore.insert_inRows_taken hf
        simp only [answer, withStore, inRows, Store.inRows, Store.insert, MemoryStore.insert, hf,
          hrows, Store.settle, if_true]
        exact ⟨.fault rfl, rfl, hm⟩
      | false =>
        have hrows := MemoryStore.insert_inRows hf
        simp only [answer, withStore, inRows, Store.inRows, Store.insert, MemoryStore.insert, hf,
          hrows, Store.settle]
        exact ⟨.value rfl, rfl, hm.insert hfits hf⟩
    | get id => exact ⟨(hm.get id).symm, rfl, hm⟩
    | list => exact ⟨hm.list.symm, rfl, hm⟩
    | update f =>
      have hrows := hm.update_inRows hfits.2.2
      simp only [answer, withStore, inRows, Store.inRows, Store.update, hrows, Store.settleWith]
      exact ⟨rfl, rfl, hm.update hfits⟩
    | setLife id status lastRun =>
      have hrows := hm.setLife_inRows id status lastRun
      simp only [answer, withStore, inRows, Store.inRows, Store.setLife, hrows, Store.settle]
      exact ⟨rfl, rfl, hm.setLife id status hfits⟩
    | delete id =>
      have hrows := m.delete_inRows id
      simp only [answer, withStore, inRows, Store.inRows, Store.delete, hrows, Store.settleWith]
      exact ⟨rfl, rfl, hm.delete id⟩
    | append r =>
      have hrows := MemoryStore.append_inRows hfits.2
      simp only [answer, withStore, inRows, Store.inRows, Store.append, hrows, Store.settle]
      exact ⟨rfl, rfl, hm.append hfits.1⟩
    | records flow =>
      have hrows := hm.recordsOf flow
      simp only [answer, inRows, Store.inRows, Store.recordsOf, hrows]
      refine ⟨.value ?_, rfl, hm⟩
      -- the rows give the records as they are read back, which is the same data
      rw [Record.SameData, List.map_map]
      exact List.map_congr_left fun r _ => r.toJson_asRead.symm
    | _ => exact ⟨rfl, rfl, hm⟩

/-! ### Operations, each request on its occasion -/

/-- The answer to a request on an occasion. -/
def answerAt (m : Occasion) (w : World) (q : Request) : q.Answer × World :=
  { w with clock := m.clock, made := m.made }.answer m.cancelled q

/-- **Runs an operation**, each of its requests on its occasion. -/
def perform {α : Type} (occasions : Nat → Occasion) : Operation α → World → α × World
  | .done a, w => (a, w)
  | .ask q next, w =>
    let (a, w) := w.answerAt (occasions 0) q
    perform (fun n => occasions (n + 1)) (next a) w

/-- **The transcript of an operation**, each of its requests on its occasion. -/
def performed {α : Type} (occasions : Nat → Occasion) : Operation α → World → Transcript
  | .done _, _ => []
  | .ask q next, w =>
    let (a, w) := w.answerAt (occasions 0) q
    ⟨q, a⟩ :: performed (fun n => occasions (n + 1)) (next a) w

section Operations

variable {α : Type} {R : α → α → Prop} {occasions : Nat → Occasion} {w : World} {l : List Record}

theorem completes_performed (occasions : Nat → Occasion) (o : Operation α) (w : World) :
    o.Completes (performed occasions o w) (perform occasions o w).1 := by
  induction o generalizing occasions w with
  | done a => exact .nil _
  | ask q next ih => exact .cons (ih _ _ _)

/-- A request on its occasion adds to the log in memory the record that it is for, if it is for one. -/
theorem answerAt_log (hl : w.store.log? = some l) (m : Occasion) (q : Request) :
    (w.answerAt m q).2.store.log?
      = some (l ++ (Transcript.record? ⟨q, (w.answerAt m q).1⟩).toList) :=
  answer_log (w := { w with clock := m.clock, made := m.made }) hl m.cancelled q

/-- **The log in memory after an operation** has the records that its transcript adds. -/
theorem perform_log (o : Operation α) (hl : w.store.log? = some l) :
    (perform occasions o w).2.store.log?
      = some (l ++ Transcript.appended (performed occasions o w)) := by
  induction o generalizing occasions w l with
  | done a =>
    rw [performed, Transcript.appended_nil, List.append_nil]
    exact hl
  | ask q next ih =>
    rw [perform, performed, Transcript.appended_cons, ← List.append_assoc]
    exact ih _ (answerAt_log hl _ q)

/-- **One step of an operation** and its twin, for a request that fits. -/
theorem Twins.ask {q : Request} {next next' : q.Answer → Operation α} (hw : w.store.Fit)
    (hfits : q.FitsIn w.store)
    (h : ∀ a', q.Agrees (w.answerAt (occasions 0) q).1 a' →
      (w.answerAt (occasions 0) q).2.store.Fit →
        Twins R
          (perform (fun n => occasions (n + 1)) (next (w.answerAt (occasions 0) q).1)
            (w.answerAt (occasions 0) q).2)
          (perform (fun n => occasions (n + 1)) (next' a') (w.answerAt (occasions 0) q).2.inRows)) :
    Twins R (perform occasions (.ask q next) w) (perform occasions (.ask q next') w.inRows) := by
  have htwin : Twins q.Agrees (w.answerAt (occasions 0) q) (w.inRows.answerAt (occasions 0) q) :=
    answer_inRows (w := { w with clock := (occasions 0).clock, made := (occasions 0).made }) hw _
      hfits
  rw [perform, perform]
  show Twins R _ (perform _ (next' (w.inRows.answerAt (occasions 0) q).1)
    (w.inRows.answerAt (occasions 0) q).2)
  rw [htwin.world]
  exact h _ htwin.value htwin.fit

/-- **Two operations that are alike come to the same**, if they update no flow, and put nothing into
the store but what can be written and well-formed graphs, and records under ids that are all
different. -/
theorem twins_of_alike {o o' : Operation α} (h : Alike Request.Agrees R o o') (hw : w.store.Fit)
    (hl : w.store.log? = some l) (hwritable : ∀ e ∈ performed occasions o w, e.1.Writable)
    (hsound : ∀ e ∈ performed occasions o w, e.1.InsertsSound)
    (hids : ((l ++ Transcript.appended (performed occasions o w)).map (·.runId)).Nodup) :
    Twins R (perform occasions o w) (perform occasions o' w.inRows) := by
  induction h generalizing occasions w l with
  | done h => exact ⟨h, rfl, hw⟩
  | @ask q next next' _ ih =>
    rw [performed] at hwritable hsound hids
    rw [Transcript.appended_cons, ← List.append_assoc] at hids
    have hlog := answerAt_log hl (occasions 0) q
    have hfits : q.FitsIn w.store := Request.fitsIn hw hl (hwritable _ (List.mem_cons_self ..))
      (hsound _ (List.mem_cons_self ..)) (hids.sublist ((List.sublist_append_left _ _).map _))
    exact .ask hw hfits fun a' ha' hfit => ih _ a' ha' hfit hlog
      (fun e he => hwritable e (List.mem_cons_of_mem _ he))
      (fun e he => hsound e (List.mem_cons_of_mem _ he)) hids

/-- An operation that is over has come to the same in both worlds. -/
theorem twins_done (hw : w.store.Fit) (r : Except Fault Reply) :
    Twins (Agree Reply.Agrees) (perform occasions (.done r) w)
      (perform occasions (.done r) w.inRows) := ⟨.refl Reply.agrees_refl r, rfl, hw⟩

/-- To load a flow comes to the same. -/
theorem get_twins (hw : w.store.Fit) (id : String) :
    Twins (Agree Reply.Agrees) (perform occasions ((Flows.get id).reply .flow) w)
      (perform occasions ((Flows.get id).reply .flow) w.inRows) := by
  have hrun : (Flows.get id).reply .flow
      = .ask (.get id) fun a => .done ((Flows.found id a).map .flow) := by
    rw [Attempt.reply, Flows.get_run]
    rfl
  rw [hrun]
  refine .ask hw (hw.fitsIn_get id) fun a ha hfit => ?_
  obtain rfl := ha
  exact twins_done hfit _

/-- What is left of an update comes to the same.  What is stored is made from the flow that has been
loaded, so it brings the instant of creation that the store has. -/
theorem amend_twins (hw : w.store.Fit) {id : String} {u : Update}
    (hwritable : ∀ e ∈ performed occasions ((Flows.amend id u (w.store.get id)).reply .flow) w,
      e.1.Writable) :
    Twins (Agree Reply.Agrees)
      (perform occasions ((Flows.amend id u (w.store.get id)).reply .flow) w)
      (perform occasions ((Flows.amend id u (w.store.get id)).reply .flow) w.inRows) := by
  obtain ⟨m, hs, hm⟩ := hw.exists_memory
  have hget : w.store.get id = .ok (m.get? id) := by rw [hs]; rfl
  rw [hget] at hwritable ⊢
  cases hflow : m.get? id with
  | none => exact twins_done hw _
  | some flow =>
    cases happly : u.apply flow with
    | error e =>
      -- a fault of the update itself is told before the store is asked again
      have hfailed : (Flows.amend id u (.ok (some flow))).reply .flow
          = (.done (.error e) : Operation (Except Fault Reply)) := by
        simp only [Flows.amend, happly]
        rfl
      rw [hfailed]
      exact twins_done hw _
    | ok flow' =>
      have hamend : (Flows.amend id u (.ok (some flow))).reply .flow
          = .ask (.update flow') fun stored => (Flows.reload id stored).reply .flow := by
        rw [Attempt.reply, Flows.amend_run happly]
        rfl
      rw [hflow, hamend] at hwritable
      rw [hamend]
      have hwritten : flow'.graph.Writable := hwritable _ (List.mem_cons_self ..)
      have hfits : (Request.update flow').FitsIn w.store := by
        rw [hs]
        exact hm.fits_update hflow happly hwritten
      refine .ask hw hfits fun stored hstored hfit => ?_
      obtain rfl := hstored
      -- the flow is loaded again only if it has been found when it was stored
      rcases (w.answerAt (occasions 0) (.update flow')).1 with e | there
      · exact twins_done hfit _
      · cases there with
        | true => exact get_twins hfit id
        | false => exact twins_done hfit _

/-- **To update a flow comes to the same**, if what is written can be. -/
theorem update_twins (hw : w.store.Fit) {id : String} {u : Update}
    (hwritable : ∀ e ∈ performed occasions (Call.update id u).operation w, e.1.Writable) :
    Twins (Agree Reply.Agrees) (perform occasions (Call.update id u).operation w)
      (perform occasions (Call.update id u).operation w.inRows) := by
  have hrun : (Call.update id u).operation
      = .ask (.get id) fun a => (Flows.amend id u a).reply .flow := by
    show (Flows.update id u).reply .flow = _
    rw [Attempt.reply, Flows.update_run]
    rfl
  rw [hrun] at hwritable ⊢
  refine .ask hw (hw.fitsIn_get id) fun a ha hfit => ?_
  obtain rfl := ha
  exact amend_twins hfit fun e he => hwritable e (List.mem_cons_of_mem _ he)

end Operations

end World

end Flowgraph
