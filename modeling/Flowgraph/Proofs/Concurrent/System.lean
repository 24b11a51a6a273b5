import Mathlib.Logic.Relation
import Flowgraph.Proofs.Flow.Operations
import Flowgraph.Session.World

/-!
# Calls that go on at the same time

A system is a world and the calls that work on it.  Each step of a system is one request of one
call with its answer, at one moment, and any call may be the next (`System.Step`); new calls come in
at any time, and a call may be cancelled at any time.  What happens to the world apart from the calls
is given by `Rules`: how others may change it, and which requests may be refused.

A property of the world and a property of each call that every step preserves hold in every state
that is reached (`Rules.Preserves.reached`).  `Task.Sound` is the first of these: what is left of a
call is what is left of its operation after its transcript.  Others come from a contract that all
calls meet (`Rules.Preserves.of_meets`).  What calls may ask for is listed once, in `Call.Asks`, and a
contract that allows it is met by every call (`Call.operation_meets_of`).

What can be said of the transcripts alone is read off `System.Step.past_cases`: a step adds one exchange
to one of them, or none to any.
-/

namespace Flowgraph

/-! ### Calls -/

/-- **A call** on the stored flows. -/
inductive Call where
  | create (draft : Draft)
  | importFlow (flow : Flow)
  | get (id : String)
  | list
  | update (id : String) (u : Update)
  | delete (id : String)
  | execute (x : Executor) (id : String) (ctx : Context)
  | executions (flow : Option String)

/-- What a call replies when it does not fail. -/
inductive Reply where
  | flow (flow : Flow)
  | flows (flows : List Flow)
  | deleted
  | finished (fin : Executor.Finished)
  | records (records : List Record)

/-- An attempt whose value is given as a reply. -/
def Attempt.reply {α : Type} (f : α → Reply) (m : Attempt α) : Operation (Except Fault Reply) :=
  Interaction.bind m.run fun r => .done (r.map f)

theorem Attempt.reply_meets {α : Type} {f : α → Reply} {m : Attempt α} {promise : α → Prop}
    {rely : (q : Request) → q.Answer → Prop} {guarantee : Request → Prop}
    (h : m.Meets rely guarantee promise) :
    (m.reply f).Meets rely guarantee fun _ => True :=
  Interaction.Meets.bind h fun _ _ => trivial

/-- **The operation of a call.** -/
def Call.operation : Call → Operation (Except Fault Reply)
  | create draft => (Flows.create draft).reply .flow
  | importFlow flow => (Flows.importFlow flow).reply .flow
  | get id => (Flows.get id).reply .flow
  | list => Flows.list.reply .flows
  | update id u => (Flows.update id u).reply .flow
  | delete id => (Flows.delete id).reply fun _ => .deleted
  | execute x id ctx => (Flows.execute x id ctx).reply .finished
  | executions flow => (Flows.executions flow).reply .records

namespace Call

/-- **What a call may ask for**, where what it has loaded is as expected.  Any call may look; of what
changes the flows each call asks for its own. -/
inductive Asks (rely : (q : Request) → q.Answer → Prop) : Call → Request → Prop
  | get {call : Call} (id : String) : Asks rely call (.get id)
  | list {call : Call} : Asks rely call .list
  | records {call : Call} (flow : Option String) : Asks rely call (.records flow)
  | freshFlowId {call : Call} : Asks rely call .freshFlowId
  | clock {call : Call} : Asks rely call .clock
  /-- What is created has the graph of its draft. -/
  | created {draft : Draft} {g : Graph} (hg : draft.graph = .ok g) (id : String)
      (createdAt : Instant) :
      Asks rely (.create draft) (.insert (.fresh id draft.name draft.description g createdAt))
  /-- What is imported has a well-formed graph, and counts as never run. -/
  | imported {flow : Flow} (hg : flow.graph.WellFormed) :
      Asks rely (.importFlow flow) (.insert flow.neverRun)
  /-- What is stored by an update is made from what was loaded. -/
  | updated {id : String} {u : Update} {flow flow' : Flow}
      (hload : rely (.get id) (.ok (some flow))) (happly : u.apply flow = .ok flow') :
      Asks rely (.update id u) (.update flow')
  | deleted {id : String} : Asks rely (.delete id) (.delete id)
  /-- A flow with a trigger is marked as running, with the last run that it has. -/
  | marked {x : Executor} {id : String} {ctx : Context} {flow : Flow}
      (hload : rely (.get id) (.ok (some flow))) (htrig : flow.trigger?.isSome) :
      Asks rely (.execute x id ctx) (.setLife id .running flow.lastRun)
  /-- The life is stored that the run of the flow leaves. -/
  | ended {x : Executor} {id : String} {ctx : Context} {flow flow' : Flow}
      (hload : rely (.get id) (.ok (some flow))) (hleaves : Executor.Leaves flow flow')
      (hlast : flow'.lastRun.isSome) :
      Asks rely (.execute x id ctx) (.setLife id flow'.status flow'.lastRun)
  | ran {x : Executor} {id : String} {ctx : Context} {q : Request} (hq : Executor.RunAsks q) :
      Asks rely (.execute x id ctx) q

/-- **No call asks for anything else.** -/
theorem operation_asks (rely : (q : Request) → q.Answer → Prop) (call : Call) :
    call.operation.Meets rely (call.Asks rely) fun _ => True := by
  -- the contract of each operation, with what it asks for as the guarantee
  cases call with
  | create draft =>
    exact Attempt.reply_meets
      (Flows.create_meets .freshFlowId .clock fun id _ createdAt hg => .created hg id createdAt)
  | importFlow flow => exact Attempt.reply_meets (Flows.importFlow_meets .imported)
  | get id => exact Attempt.reply_meets (Flows.get_meets (.get id))
  | list => exact Attempt.reply_meets (Flows.list_meets .list)
  | update id u => exact Attempt.reply_meets (Flows.update_meets (.get id) fun _ _ => .updated)
  | delete id => exact Attempt.reply_meets (Flows.delete_meets .deleted)
  | execute x id ctx =>
    refine Attempt.reply_meets (Flows.execute_meets_lives (.get id) (fun _ => .marked)
      (fun _ _ => .ended) fun flow _ => ?_)
    exact Executor.run_meets_of x flow ctx fun _ => .ran
  | executions flow => exact Attempt.reply_meets (Flows.executions_meets (.records flow))

/-- A call meets every contract that allows what it may ask for. -/
theorem operation_meets_of {rely : (q : Request) → q.Answer → Prop} {guarantee : Request → Prop}
    (call : Call) (h : ∀ q, call.Asks rely q → guarantee q) :
    call.operation.Meets rely guarantee fun _ => True :=
  (call.operation_asks rely).mono (fun _ _ ha => ha) h fun _ _ => trivial

end Call

/-- **A call that is under way**: its transcript, and what is left of its operation. -/
structure Task where
  call : Call
  /-- The call has been cancelled, whether or not it has found out. -/
  isCancelled : Bool
  past : Transcript
  rest : Operation (Except Fault Reply)

namespace Task

/-- A call that has just come in. -/
def start (call : Call) : Task := ⟨call, false, [], call.operation⟩

/-- The call with one more request answered. -/
def answered (t : Task) (q : Request) (a : q.Answer)
    (next : q.Answer → Operation (Except Fault Reply)) : Task :=
  { t with past := t.past ++ [⟨q, a⟩], rest := next a }

/-- The call with its cancellation. -/
def cancelled (t : Task) : Task := { t with isCancelled := true }

end Task

/-! ### Systems -/

/-- **What happens to a world apart from the calls.** -/
structure Rules where
  /-- How others may change the world, at any moment. -/
  changes : World → World → Prop
  /-- The requests that the store may refuse, for whatever cause. -/
  refuses : Request → Prop

/-- **An answer that a request may get**, and the world afterwards.  A wait may be over at any
moment; it is cut short only if the call has been cancelled. -/
inductive Answers (rules : Rules) (isCancelled : Bool) (w : World) :
    (q : Request) → q.Answer → World → Prop
  | answered (q : Request) : Answers rules isCancelled w q (w.answer isCancelled q).1
      (w.answer isCancelled q).2
  | elapsed (n : Nat) : Answers rules isCancelled w (.wait n) .elapsed w
  | refused (q : Request) (hq : rules.refuses q) (cause : Fault) (a : q.Answer)
      (ha : q.refusal? cause = some a) : Answers rules isCancelled w q a w

/-- **A world and the calls that work on it.** -/
structure System where
  world : World
  tasks : List Task

namespace System

/-- A system in which no call has come in. -/
def idle (w : World) : System := ⟨w, []⟩

/-- **One step of a system.** -/
inductive Step (rules : Rules) : System → System → Prop
  /-- A call comes in. -/
  | call (s : System) (call : Call) : Step rules s { s with tasks := s.tasks ++ [.start call] }
  /-- A call is cancelled. -/
  | cancel {s : System} {i : Nat} {t : Task} (ht : s.tasks[i]? = some t) :
      Step rules s { s with tasks := s.tasks.set i t.cancelled }
  /-- A call has one of its requests answered. -/
  | exchange {s : System} {i : Nat} {t : Task} (ht : s.tasks[i]? = some t) {q : Request}
      {next : q.Answer → Operation (Except Fault Reply)} (hrest : t.rest = .ask q next)
      {a : q.Answer} {w : World} (ha : Answers rules t.isCancelled s.world q a w) :
      Step rules s ⟨w, s.tasks.set i (t.answered q a next)⟩
  /-- Others change the world. -/
  | change {s : System} {w : World} (hw : rules.changes s.world w) :
      Step rules s { s with world := w }

/-- A system is reached from another by some steps. -/
abbrev Reaches (rules : Rules) : System → System → Prop := Relation.ReflTransGen (Step rules)

end System

/-! ### What every step preserves -/

/-- **A property of worlds and a property of calls that every step preserves.** -/
structure Rules.Preserves (rules : Rules) (world : World → Prop) (task : Task → Prop) : Prop where
  start : ∀ call, task (.start call)
  cancel : ∀ t, task t → task t.cancelled
  change : ∀ w w', world w → rules.changes w w' → world w'
  exchange : ∀ {w : World} {t : Task} {q : Request}
    {next : q.Answer → Operation (Except Fault Reply)} {a : q.Answer} {w' : World},
    world w → task t → t.rest = .ask q next → Answers rules t.isCancelled w q a w' →
      world w' ∧ task (t.answered q a next)

namespace Rules.Preserves

variable {rules : Rules} {world : World → Prop} {task : Task → Prop} {s s' : System}

theorem step (h : rules.Preserves world task) (hstep : System.Step rules s s')
    (hs : world s.world ∧ ∀ t ∈ s.tasks, task t) :
    world s'.world ∧ ∀ t ∈ s'.tasks, task t := by
  obtain ⟨hw, ht⟩ := hs
  -- a step touches one call at most; the others are as they were
  cases hstep with
  | call call =>
    refine ⟨hw, fun t hmem => ?_⟩
    rcases List.mem_append.mp hmem with hmem | hmem
    · exact ht t hmem
    · exact List.mem_singleton.mp hmem ▸ h.start call
  | cancel hi =>
    refine ⟨hw, fun t hmem => ?_⟩
    rcases List.mem_or_eq_of_mem_set hmem with hmem | rfl
    · exact ht t hmem
    · exact h.cancel _ (ht _ (List.mem_of_getElem? hi))
  | exchange hi hrest ha =>
    obtain ⟨hw', hnew⟩ := h.exchange hw (ht _ (List.mem_of_getElem? hi)) hrest ha
    refine ⟨hw', fun t hmem => ?_⟩
    rcases List.mem_or_eq_of_mem_set hmem with hmem | rfl
    · exact ht t hmem
    · exact hnew
  | change hc => exact ⟨h.change _ _ hw hc, ht⟩

/-- **What every step preserves holds in every state that is reached.** -/
theorem reached (h : rules.Preserves world task) {w : World} (hw : world w)
    (hs : System.Reaches rules (.idle w) s) : world s.world ∧ ∀ t ∈ s.tasks, task t := by
  induction hs with
  | refl => exact ⟨hw, nofun⟩
  | tail _ hstep ih => exact h.step hstep ih

/-- **Calls that meet a contract keep the world as it should be**, if in such a world whatever the
guarantee allows is answered as they rely on, and leaves such a world. -/
theorem of_meets {rely : (q : Request) → q.Answer → Prop} {guarantee : Request → Prop}
    (hcall : ∀ call : Call, call.operation.Meets rely guarantee fun _ => True)
    (htask : ∀ t, task t ↔ t.call.operation.After t.past t.rest ∧ ∀ e ∈ t.past, rely e.1 e.2)
    (hchange : ∀ w w', world w → rules.changes w w' → world w')
    (hanswer : ∀ {isCancelled : Bool} {w w' : World} {q : Request} {a : q.Answer},
      Answers rules isCancelled w q a w' → world w → guarantee q → world w' ∧ rely q a) :
    rules.Preserves world task where
  start call := (htask _).mpr ⟨.nil _, fun e he => absurd he List.not_mem_nil⟩
  cancel t ht := (htask _).mpr ((htask t).mp ht)
  change := hchange
  exchange {w t q next a w'} hw ht hrest ha := by
    obtain ⟨hafter, hpast⟩ := (htask t).mp ht
    -- what is left of the call meets the contract, and begins with this request
    have hmeets := (hcall t.call).after hafter hpast
    rw [hrest] at hmeets
    obtain ⟨hw', hrely⟩ := hanswer ha hw hmeets.1
    refine ⟨hw', (htask _).mpr ⟨hafter.snoc hrest a, fun e he => ?_⟩⟩
    rcases List.mem_append.mp he with he | he
    · exact hpast e he
    · exact List.mem_singleton.mp he ▸ hrely

end Rules.Preserves

/-! ### Calls and their transcripts -/

/-- **A call is where its transcript has brought its operation**, and has found a cancellation only
if there was one. -/
structure Task.Sound (t : Task) : Prop where
  after : t.call.operation.After t.past t.rest
  looks : true ∈ t.past.looks → t.isCancelled = true

/-- A look finds no cancellation that there is not. -/
theorem Answers.look {rules : Rules} {isCancelled : Bool} {w w' : World} {q : Request} {a : q.Answer}
    (h : Answers rules isCancelled w q a w') (hl : Transcript.look? ⟨q, a⟩ = some true) :
    isCancelled = true := by
  cases h with
  | answered =>
    cases q with
    | isCancelled => exact Option.some.inj hl
    | wait n =>
      cases isCancelled with
      | true => rfl
      | false => exact nomatch hl
    | _ => exact nomatch hl
  | elapsed n => exact nomatch hl
  | refused _ _ _ _ ha =>
    cases q with
    | isCancelled => exact nomatch ha
    | wait n => exact nomatch ha
    | _ => exact nomatch hl

theorem Task.Sound.preserves (rules : Rules) :
    rules.Preserves (fun _ => True) Task.Sound where
  start call := ⟨.nil _, nofun⟩
  cancel t ht := ⟨ht.after, fun _ => rfl⟩
  change _ _ _ _ := trivial
  exchange {w t q next a w'} _ ht hrest ha := by
    refine ⟨trivial, ht.after.snoc hrest a, fun hfound => ?_⟩
    simp only [answered, Transcript.looks_append, List.mem_append] at hfound
    -- a cancellation has been found before, or is found now
    rcases hfound with hfound | hfound
    · exact ht.looks hfound
    · rw [Transcript.looks_cons, Transcript.looks_nil, List.append_nil, Option.mem_toList] at hfound
      exact ha.look hfound

theorem System.Reaches.sound {rules : Rules} {w : World} {s : System}
    (hs : System.Reaches rules (.idle w) s) {t : Task} (ht : t ∈ s.tasks) : t.Sound :=
  ((Task.Sound.preserves rules).reached trivial hs).2 t ht

/-- A member that is replaced leaves a member of its kind behind, if the new one is of its kind. -/
theorem exists_mem_set {α : Type} {P : α → Prop} {l : List α} {i : Nat} {a a' : α}
    (hi : l[i]? = some a) (ha : P a → P a') (h : ∃ b ∈ l, P b) : ∃ b ∈ l.set i a', P b := by
  obtain ⟨b, hb, hP⟩ := h
  obtain ⟨j, hj⟩ := List.mem_iff_getElem?.mp hb
  obtain ⟨hlt, -⟩ := List.getElem?_eq_some_iff.mp hi
  by_cases hij : i = j
  · subst hij
    obtain rfl : b = a := Option.some.inj (hj.symm.trans hi)
    exact ⟨a', List.mem_of_getElem? (List.getElem?_set_self hlt), ha hP⟩
  · exact ⟨b, List.mem_of_getElem? ((List.getElem?_set_ne hij).trans hj), hP⟩

/-- What one member brings anew is new in what all of them bring. -/
theorem perm_flatMap_set {α β : Type} {f : α → List β} {l : List α} {i : Nat} {a a' : α}
    {new : List β} (hi : l[i]? = some a) (hf : f a' = f a ++ new) :
    ((l.set i a').flatMap f).Perm (l.flatMap f ++ new) := by
  induction l generalizing i with
  | nil => exact nomatch hi
  | cons b rest ih =>
    cases i with
    | zero =>
      -- what is new comes before what the later members bring
      obtain rfl := Option.some.inj hi
      simp only [List.set_cons_zero, List.flatMap_cons, hf, List.append_assoc]
      exact List.Perm.append_left _ List.perm_append_comm
    | succ i =>
      simp only [List.set_cons_succ, List.flatMap_cons, List.append_assoc]
      exact List.Perm.append_left _ (ih hi)

namespace System

/-- **What a call keeps there stays**, once there is a call of that kind. -/
theorem Step.exists_task {rules : Rules} {s s' : System} (h : Step rules s s') {P : Task → Prop}
    (hcancel : ∀ t, P t → P t.cancelled) (hanswer : ∀ t q a next, P t → P (t.answered q a next))
    (hs : ∃ t ∈ s.tasks, P t) : ∃ t ∈ s'.tasks, P t := by
  cases h with
  | call call =>
    obtain ⟨t, ht, hP⟩ := hs
    exact ⟨t, List.mem_append_left _ ht, hP⟩
  | change => exact hs
  | cancel hi => exact exists_mem_set hi (hcancel _) hs
  | exchange hi => exact exists_mem_set hi (hanswer _ _ _ _) hs

/-- **Whatever calls there are, they stay.** -/
theorem Step.call_mem {rules : Rules} {s s' : System} (h : Step rules s s') {call : Call}
    (hcall : ∃ t ∈ s.tasks, t.call = call) : ∃ t ∈ s'.tasks, t.call = call :=
  h.exists_task (fun _ => id) (fun _ _ _ _ => id) hcall

/-- **A call that has begun has begun.** -/
theorem Step.begun_mem {rules : Rules} {s s' : System} (h : Step rules s s') {call : Call}
    (hcall : ∃ t ∈ s.tasks, t.call = call ∧ t.past ≠ []) :
    ∃ t ∈ s'.tasks, t.call = call ∧ t.past ≠ [] :=
  h.exists_task (fun _ => id) (fun _ _ _ _ ht => ⟨ht.1, List.concat_ne_nil _ _⟩) hcall

/-! ### Calls at their places -/

/-- The call that has come in at a place, if any. -/
def callAt (s : System) (i : Nat) : Option Call := s.tasks[i]?.map (·.call)

/-- What the call at a place has been through so far. -/
def past (s : System) (i : Nat) : Transcript := (s.tasks[i]?.map (·.past)).getD []

variable {rules : Rules} {s s' : System} {i : Nat} {t : Task}

theorem callAt_of_task (h : s.tasks[i]? = some t) : s.callAt i = some t.call := by
  rw [callAt, h]
  rfl

theorem past_of_task (h : s.tasks[i]? = some t) : s.past i = t.past := by
  rw [past, h]
  rfl

theorem exists_task_of_callAt {call : Call} (h : s.callAt i = some call) :
    ∃ t, s.tasks[i]? = some t ∧ t.call = call ∧ s.past i = t.past := by
  obtain ⟨t, ht, hcall⟩ := Option.map_eq_some_iff.mp h
  exact ⟨t, ht, hcall, past_of_task ht⟩

theorem callAt_set (hi : s.tasks[i]? = some t) (w : World) (t' : Task) :
    callAt ⟨w, s.tasks.set i t'⟩ i = some t'.call :=
  callAt_of_task (List.getElem?_set_self (List.getElem?_eq_some_iff.mp hi).1)

theorem past_set_self (hi : s.tasks[i]? = some t) (w : World) (t' : Task) :
    past ⟨w, s.tasks.set i t'⟩ i = t'.past :=
  past_of_task (List.getElem?_set_self (List.getElem?_eq_some_iff.mp hi).1)

theorem past_set_ne {j : Nat} (hij : j ≠ i) (w : World) (t' : Task) :
    past ⟨w, s.tasks.set i t'⟩ j = s.past j := by
  rw [past, List.getElem?_set_ne (Ne.symm hij)]
  rfl

/-- A call that has just come in has been through nothing. -/
theorem past_start (w : World) (call : Call) (i : Nat) :
    past ⟨w, s.tasks ++ [.start call]⟩ i = s.past i := by
  unfold past
  rw [List.getElem?_append]
  split
  · rfl
  · next hlt =>
    rw [List.getElem?_eq_none (Nat.not_lt.mp hlt)]
    cases i - s.tasks.length <;> rfl

/-- **A call that has come in stays at its place.** -/
theorem Step.callAt_eq (h : Step rules s s') {call : Call} (hcall : s.callAt i = some call) :
    s'.callAt i = some call := by
  obtain ⟨t, hi, rfl, -⟩ := exists_task_of_callAt hcall
  cases h with
  | call =>
    exact callAt_of_task ((List.getElem?_append_left (List.getElem?_eq_some_iff.mp hi).1).trans hi)
  | change => exact hcall
  | @cancel j u hj | @exchange j u hj =>
    -- the call that takes the step may be this one or another
    by_cases hij : j = i
    · subst hij
      obtain rfl := Option.some.inj (hj.symm.trans hi)
      exact callAt_set hj _ _
    · exact callAt_of_task ((List.getElem?_set_ne hij).trans hi)

/-- **What a step does to the transcripts**: nothing, while the world stays or others change it, or it
adds one exchange to that of one call. -/
theorem Step.past_cases (h : Step rules s s') :
    ((s'.world = s.world ∨ rules.changes s.world s'.world) ∧ ∀ i, s'.past i = s.past i) ∨
      ∃ i t q next a, s.tasks[i]? = some t ∧ t.rest = .ask q next ∧
        Answers rules t.isCancelled s.world q a s'.world ∧
        s'.past i = s.past i ++ [⟨q, a⟩] ∧ ∀ j ≠ i, s'.past j = s.past j := by
  cases h with
  | call call => exact .inl ⟨.inl rfl, past_start s.world call⟩
  | change hw => exact .inl ⟨.inr hw, fun _ => rfl⟩
  | @cancel i t hi =>
    -- to be cancelled adds nothing to a transcript
    refine .inl ⟨.inl rfl, fun j => ?_⟩
    by_cases hij : j = i
    · subst hij
      exact (past_set_self hi _ _).trans (past_of_task hi).symm
    · exact past_set_ne hij _ _
  | @exchange i t hi q next hrest a w ha =>
    refine .inr ⟨i, t, q, next, a, hi, hrest, ha, ?_, fun j hij => past_set_ne hij _ _⟩
    rw [past_of_task hi]
    exact past_set_self hi _ _

theorem Step.past_prefix (h : Step rules s s') (i : Nat) : s.past i <+: s'.past i := by
  rcases h.past_cases with ⟨-, hsame⟩ | ⟨j, t, q, next, a, -, -, -, hmore, hothers⟩
  · exact hsame i ▸ List.prefix_refl _
  · by_cases hij : i = j
    · subst hij
      exact hmore ▸ List.prefix_append _ _
    · exact hothers i hij ▸ List.prefix_refl _

/-- **All that the calls have asked for** so far. -/
def asked (s : System) : List Request := s.tasks.flatMap fun t => t.past.map (·.1)

theorem mem_asked_iff {q : Request} : q ∈ s.asked ↔ ∃ i, ∃ e ∈ s.past i, e.1 = q := by
  simp only [asked, List.mem_flatMap, List.mem_map]
  constructor
  · rintro ⟨t, ht, he⟩
    obtain ⟨i, hi⟩ := List.mem_iff_getElem?.mp ht
    exact ⟨i, past_of_task hi ▸ he⟩
  · rintro ⟨i, e, he, hq⟩
    -- a place where there is no call has an empty transcript
    cases hi : s.tasks[i]? with
    | none =>
      rw [past, hi] at he
      exact absurd he List.not_mem_nil
    | some t => exact ⟨t, List.mem_of_getElem? hi, e, past_of_task hi ▸ he, hq⟩

theorem Step.asked_subset (h : Step rules s s') : s.asked ⊆ s'.asked := by
  intro q hq
  obtain ⟨i, e, he, hq⟩ := mem_asked_iff.mp hq
  exact mem_asked_iff.mpr ⟨i, e, (h.past_prefix i).subset he, hq⟩

/-- **Calls that meet a contract keep the world as it should be**, as `Rules.Preserves.of_meets` has it,
where only the answers to some requests keep it so and no other has been made. -/
theorem Reaches.of_asked {P : World → Prop} {rely : (q : Request) → q.Answer → Prop}
    {guarantee : Request → Prop} (allowed : Request → Prop)
    (hcall : ∀ call : Call, call.operation.Meets rely guarantee fun _ => True)
    (hchange : ∀ w w', P w → rules.changes w w' → P w')
    (hanswer : ∀ {isCancelled : Bool} {w w' : World} {q : Request} {a : q.Answer},
      Answers rules isCancelled w q a w' → P w → guarantee q → allowed q → P w' ∧ rely q a)
    {w : World} (hw : P w) (hs : Reaches rules (.idle w) s) (hallowed : ∀ q ∈ s.asked, allowed q) :
    P s.world ∧ ∀ i, ∀ e ∈ s.past i, guarantee e.1 ∧ rely e.1 e.2 := by
  induction hs with
  | refl => exact ⟨hw, fun i e he => absurd he List.not_mem_nil⟩
  | @tail s s' hs hstep ih =>
    -- what had been asked before has been asked now
    obtain ⟨hworld, hpast⟩ := ih fun q hq => hallowed q (hstep.asked_subset hq)
    rcases hstep.past_cases with ⟨hsame, hpasts⟩ | ⟨i, t, q, next, a, hi, hrest, ha, hmore, hothers⟩
    · refine ⟨hsame.elim (fun h => h ▸ hworld) (hchange _ _ hworld), fun i e he => ?_⟩
      rw [hpasts i] at he
      exact hpast i e he
    · -- what is left of the call that goes on meets the contract, and begins with this request
      have ht := Reaches.sound hs (List.mem_of_getElem? hi)
      have hmeets := (hcall t.call).after ht.after fun e he =>
        (hpast i e (past_of_task hi ▸ he)).2
      rw [hrest] at hmeets
      have hq : q ∈ s'.asked := mem_asked_iff.mpr ⟨i, ⟨q, a⟩, by rw [hmore]; simp, rfl⟩
      obtain ⟨hworld', hrely⟩ := hanswer ha hworld hmeets.1 (hallowed q hq)
      refine ⟨hworld', fun j e he => ?_⟩
      -- the exchange is one of the call that goes on
      by_cases hij : j = i
      · subst hij
        rw [hmore, List.mem_append, List.mem_singleton] at he
        rcases he with he | rfl
        · exact hpast j e he
        · exact ⟨hmeets.1, hrely⟩
      · rw [hothers j hij] at he
        exact hpast j e he

end System

/-- To load a flow changes nothing, and cannot be refused. -/
theorem Answers.get_inv {rules : Rules} {isCancelled : Bool} {w w' : World} {id : String}
    {found : Except Fault (Option Flow)} (h : Answers rules isCancelled w (.get id) found w') :
    w' = w ∧ found = w.store.get id := by
  cases h with
  | answered => exact ⟨rfl, rfl⟩
  | refused _ _ _ _ ha => exact nomatch ha

/-! ### Executions among the calls -/

/-- **No call but an execution makes a request that only runs make.** -/
theorem Call.operation_runs_nothing {call : Call} (h : ∀ x id ctx, call ≠ .execute x id ctx) :
    call.operation.Meets (fun _ _ => True) (fun q => ¬ q.IsOfRuns) fun _ => True := by
  refine call.operation_meets_of fun q hq => ?_
  cases hq with
  | ran => exact absurd rfl (h _ _ _)
  | _ => exact id

/-- A call that is no execution shows nothing of what only runs do. -/
theorem Task.Sound.filterMap_eq_nil {t : Task} (ht : t.Sound)
    (hcall : ∀ x id ctx, t.call ≠ .execute x id ctx) {α : Type}
    {f : Exchange Request.Answer → Option α} (hf : ∀ e, ¬ e.1.IsOfRuns → f e = none) :
    t.past.filterMap f = [] := by
  have hasks := (Call.operation_runs_nothing hcall).requests ht.after fun _ _ => trivial
  exact List.filterMap_eq_nil_iff.mpr fun e he => hf e (hasks e he)

theorem Attempt.completes_reply {α : Type} {f : α → Reply} {m : Attempt α} {t : Transcript}
    {r : Except Fault Reply} (h : (m.reply f).Completes t r) :
    ∃ r', m.run.Completes t r' ∧ r = r'.map f := by
  obtain ⟨t₁, r', t₂, rfl, h₁, h₂⟩ := Interaction.completes_bind_iff.mp h
  obtain ⟨rfl, rfl⟩ := Interaction.completes_done_iff.mp h₂
  exact ⟨r', by rwa [List.append_nil], rfl⟩

namespace Task

variable {t : Task} {x : Executor} {id : String} {ctx : Context}

/-- An execution that is over, taken apart. -/
theorem Sound.executed (ht : t.Sound) (hcall : t.call = .execute x id ctx)
    {r : Except Fault Reply} (hrest : t.rest = .done r) :
    ∃ r', Flows.Executed x id ctx t.past r' ∧ r = r'.map .finished := by
  have hafter := ht.after
  rw [hcall, hrest] at hafter
  obtain ⟨r', hr', rfl⟩ := Attempt.completes_reply hafter
  exact ⟨r', Flows.execute_executed hr', rfl⟩

/-- **An execution that is under way is the beginning of one that is over.** -/
theorem Sound.exists_executed (ht : t.Sound) (hcall : t.call = .execute x id ctx) :
    ∃ future r, Flows.Executed x id ctx (t.past ++ future) r := by
  obtain ⟨future, r, hfuture⟩ := Interaction.exists_completes Request.anyAnswer t.rest
  have hafter := ht.after.append hfuture
  rw [hcall] at hafter
  obtain ⟨r', hr', -⟩ := Attempt.completes_reply hafter
  exact ⟨future, r', Flows.execute_executed hr'⟩

/-- **What an execution has left so far**: no record, or already that of the run that it comes to. -/
theorem Sound.appended_eq (ht : t.Sound) (hcall : t.call = .execute x id ctx) :
    t.past.appended = [] ∨
      ∃ future flow fin, ∃ tr : Transcript, Flows.Executed x id ctx (t.past ++ future) (.ok fin) ∧
        (t.past ++ future).head? = some ⟨.get id, .ok (some flow)⟩ ∧
        (x.run flow ctx).Completes tr fin ∧ t.past.appended = [fin.record] := by
  -- whatever is still to come, the whole execution leaves one record at most
  obtain ⟨future, res, hexec⟩ := ht.exists_executed hcall
  rcases hexec.outcome with ⟨-, hnone⟩ | ⟨flow, fin, tr, rfl, hhead, hrun, -, hone⟩
  · rw [Transcript.appended_append, List.append_eq_nil_iff] at hnone
    exact .inl hnone.1
  · rw [Transcript.appended_append, List.append_eq_singleton_iff] at hone
    rcases hone with ⟨hnone, -⟩ | ⟨hone, -⟩
    · exact .inl hnone
    · exact .inr ⟨future, flow, fin, tr, hexec, hhead, hrun, hone⟩

/-- **An execution leaves no record, or its one record** under an id that has been made for it. -/
theorem Sound.appended_cases (ht : t.Sound) (hcall : t.call = .execute x id ctx) :
    t.past.appended = [] ∨
      ∃ r, t.past.appended = [r] ∧ r.runId ∈ t.past.runIds := by
  refine (ht.appended_eq hcall).imp_right ?_
  rintro ⟨future, flow, fin, tr, hexec, -, -, hone⟩
  -- the record cannot have been left before the id was made
  obtain ⟨t₁, t₂, hsplit, -, hnone⟩ := hexec.made
  have hmem := Transcript.mem_of_filterMap_ne_nil hsplit hnone
    (hone.trans_ne (List.cons_ne_nil _ _))
  exact ⟨fin.record, hone, List.mem_filterMap.mpr ⟨_, hmem, rfl⟩⟩

end Task

/-! ### Playing a system by hand -/

namespace System

/-- What may come next in a system that others leave alone. -/
inductive Move where
  | call (call : Call)
  | cancel (task : Nat)
  /-- The next request of a call is answered. -/
  | go (task : Nat)

/-- The system after a move, if that is possible. -/
def move? (s : System) : Move → Option System
  | .call call => some { s with tasks := s.tasks ++ [.start call] }
  | .cancel i => s.tasks[i]?.map fun t => { s with tasks := s.tasks.set i t.cancelled }
  | .go i => s.tasks[i]?.bind fun t =>
    match t.rest with
    | .done _ => none
    | .ask q next =>
      let (a, w) := s.world.answer t.isCancelled q
      some ⟨w, s.tasks.set i (t.answered q a next)⟩

/-- **The system after some moves**, if they are possible. -/
def play? (s : System) : List Move → Option System
  | [] => some s
  | m :: rest => (s.move? m).bind fun s' => s'.play? rest

variable {rules : Rules} {s s' : System}

theorem step_of_move? {m : Move} (h : s.move? m = some s') : Step rules s s' := by
  cases m with
  | call call =>
    obtain rfl := Option.some.inj h
    exact .call s call
  | cancel i =>
    obtain ⟨t, ht, rfl⟩ := Option.map_eq_some_iff.mp h
    exact .cancel ht
  | go i =>
    obtain ⟨t, ht, h⟩ := Option.bind_eq_some_iff.mp h
    split at h
    · -- a call that is over has nothing to go on with
      exact nomatch h
    · next q next hrest =>
      obtain rfl := Option.some.inj h
      exact .exchange ht hrest (.answered q)

/-- **What can be played is reached**, under whatever rules. -/
theorem reaches_of_play? {moves : List Move} (h : s.play? moves = some s') :
    Reaches rules s s' := by
  induction moves generalizing s with
  | nil =>
    obtain rfl := Option.some.inj h
    exact .refl
  | cons m rest ih =>
    obtain ⟨s₁, hm, h⟩ := Option.bind_eq_some_iff.mp h
    exact .head (step_of_move? hm) (ih h)

end System

end Flowgraph
