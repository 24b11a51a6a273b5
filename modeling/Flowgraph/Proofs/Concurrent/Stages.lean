import Flowgraph.Proofs.Flow.Operations
import Flowgraph.Proofs.Concurrent.Turns
import Flowgraph.Proofs.Store.Slot
import Flowgraph.Proofs.Time.Calendar

/-!
# The stages of an execution

An execution stores the last run of its flow twice: as it has loaded it, when it marks the flow as
running, and at its end as the start of its own run.  `Stage` says where an execution stands by what is
left of it, and what has to hold of the store and of the clock then.  Each request that is answered
brings an execution to its next stage (`Stage.answered`, with one case for each of the stages), the
first one included (`Advances.of_resume`).  An execution that pauses stays where it stands, whatever
the others do (`Stage.of_pauses`).

What a request brings about is `Advances`: the runs that have ended still follow one another in time
(`InTime`), and the last run that is stored is still the start of the one that ended last
(`lastEnded`).
-/

namespace Flowgraph

open Executor (Finished Asks finished runAsks_of_asks)

/-! ### Runs in order -/

/-- **A run was under way during the whole of another one.** -/
def Record.Spans (r other : Record) : Prop :=
  r.startedAt ≤ other.startedAt ∧
    ∀ c ∈ other.completedAt, ∀ c' ∈ r.completedAt, c ≤ c'

/-! ### The stages of an execution -/

/-- **What is left of an execution whose run has ended**: it tells so, and then stores the start of the
run.  It does not wait any more. -/
inductive Closes (id : String) (fin : Finished) : Operation (Except Fault Reply) → Prop
  | publishes {event : Event} {next : Unit → Operation (Except Fault Reply)}
      (h : ∀ a, Closes id fin (next a)) : Closes id fin (.ask (.publish event) next)
  | appends {r : Record} {next : Except Fault Unit → Operation (Except Fault Reply)}
      (h : ∀ a, Closes id fin (next a)) : Closes id fin (.ask (.append r) next)
  | stores {status : Status} {next : Except Fault Unit → Operation (Except Fault Reply)}
      (h : ∀ a, next a = .done (.ok (.finished fin))) :
      Closes id fin (.ask (.setLife id status (some fin.record.startedAt)) next)

/-- **What is left of an execution whose run has started**: it walks, and then looks when it is
over. -/
inductive Underway (id : String) (startedAt : Instant) : Operation (Except Fault Reply) → Prop
  | walks {q : Request} {next : q.Answer → Operation (Except Fault Reply)} (hq : Asks q)
      (h : ∀ a, Underway id startedAt (next a)) : Underway id startedAt (.ask q next)
  | ends {next : Instant → Operation (Except Fault Reply)}
      (h : ∀ completedAt, ∃ fin : Finished, fin.record.startedAt = startedAt ∧
        fin.record.completedAt = some completedAt ∧ fin.flow.trigger?.isSome ∧
        Closes id fin (next completedAt)) : Underway id startedAt (.ask .clock next)

/-- **What is left of an execution that is about to start its run**: it makes the id of the run, and
looks when the run starts. -/
inductive Opens (id : String) : Operation (Except Fault Reply) → Prop
  | names {next : String → Operation (Except Fault Reply)} (h : ∀ runId, Opens id (next runId)) :
      Opens id (.ask .freshRunId next)
  | starts {next : Instant → Operation (Except Fault Reply)}
      (h : ∀ startedAt, Underway id startedAt (next startedAt)) : Opens id (.ask .clock next)

/-- **What is left of an execution that has loaded a flow without a trigger**: it does not wait, and
stores no last run but the one that it has loaded. -/
inductive Returns (id : String) (lastRun : Option Instant) : Operation (Except Fault Reply) → Prop
  | asks {q : Request} {next : q.Answer → Operation (Except Fault Reply)}
      (hq : Executor.RunAsks q) (hwait : ∀ n, q ≠ .wait n) (h : ∀ a, Returns id lastRun (next a)) :
      Returns id lastRun (.ask q next)
  | stores {status : Status} {next : Except Fault Unit → Operation (Except Fault Reply)}
      (h : ∀ a, Returns id lastRun (next a)) :
      Returns id lastRun (.ask (.setLife id status lastRun) next)
  | done {fin : Finished} (h : fin.flow.trigger? = none) :
      Returns id lastRun (.done (.ok (.finished fin)))

/-- **Where an execution stands** that has begun, by what is left of it: with what stands for the flow
in the store, the readings of the clock, and the records of the runs that have ended. -/
inductive Stage (id : String) (x : Slot) (readings : List Instant) (ended : List Record) :
    Operation (Except Fault Reply) → Prop
  /-- It marks the flow as running, with the last run that stands there. -/
  | marks {lastRun : Option Instant} {next : Except Fault Unit → Operation (Except Fault Reply)}
      (hx : x.LastRan lastRun) (h : ∀ a, Opens id (next a) ∨ ∃ e, next a = .done (.error e)) :
      Stage id x readings ended (.ask (.setLife id .running lastRun) next)
  | opens {rest : Operation (Except Fault Reply)} (h : Opens id rest) :
      Stage id x readings ended rest
  | underway {rest : Operation (Except Fault Reply)} {startedAt : Instant}
      (hstarted : startedAt ∈ readings) (h : Underway id startedAt rest) :
      Stage id x readings ended rest
  /-- It has looked when the run was over, after all runs that have ended before. -/
  | closes {rest : Operation (Except Fault Reply)} {fin : Finished} {completedAt : Instant}
      (hcompleted : fin.record.completedAt = some completedAt) (hread : completedAt ∈ readings)
      (hstarted : fin.record.startedAt ≤ completedAt)
      (hlatest : ∀ r ∈ ended, ∀ c ∈ r.completedAt, c ≤ completedAt)
      (htrig : fin.flow.trigger?.isSome) (h : Closes id fin rest) :
      Stage id x readings ended rest
  | returns {rest : Operation (Except Fault Reply)} {lastRun : Option Instant}
      (hx : x.LastRan lastRun) (h : Returns id lastRun rest) : Stage id x readings ended rest
  | done (r : Except Fault Reply) : Stage id x readings ended (.done r)

/-! ### From stage to stage -/

/-- **The record of a run from a trigger** that an execution has come to, if it is over. -/
def Interaction.ended : Operation (Except Fault Reply) → List Record
  | .done (.ok (.finished fin)) => if fin.flow.trigger?.isSome then [fin.record] else []
  | _ => []

section Stages

variable {id : String} {x x' : Slot} {readings readings' : List Instant}
  {ended ended' : List Record} {rest : Operation (Except Fault Reply)} {fin : Finished}
  {startedAt : Instant} {lastRun before : Option Instant}

theorem Closes.ended_eq_nil (h : Closes id fin rest) : rest.ended = [] := by
  cases h <;> rfl

theorem Underway.ended_eq_nil (h : Underway id startedAt rest) : rest.ended = [] := by
  cases h <;> rfl

theorem Opens.ended_eq_nil (h : Opens id rest) : rest.ended = [] := by
  cases h <;> rfl

theorem Returns.ended_eq_nil (h : Returns id lastRun rest) : rest.ended = [] := by
  cases h with
  | done h => simp [Interaction.ended, h]
  | _ => rfl

/-- **An execution that pauses stands where it stands**, whatever happens to the store and whoever
comes to an end. -/
theorem Stage.of_pauses (h : Stage id x readings ended rest) (hrest : rest.pauses = true)
    (hmore : ∀ t ∈ readings, t ∈ readings') : Stage id x' readings' ended' rest := by
  -- only a walk waits, and what is done is not about the store any more
  cases h with
  | marks => exact nomatch hrest
  | opens h => cases h <;> exact nomatch hrest
  | underway hstarted h => exact .underway (hmore _ hstarted) h
  | closes _ _ _ _ _ h => cases h <;> exact nomatch hrest
  | returns hx h =>
    cases h with
    | @asks q _ _ hwait _ =>
      cases q with
      | wait n => exact absurd rfl (hwait n)
      | _ => exact nomatch hrest
    | stores => exact nomatch hrest
    | done => exact .done _
  | done r => exact .done r

/-- **The last run that is to stand in the store**: the start of the run that ended last, or the last
run that there was before. -/
def lastEnded (before : Option Instant) (ended : List Record) : Option Instant :=
  (ended.getLast?.map (·.startedAt)).or before

@[simp] theorem lastEnded_concat (before : Option Instant) (ended : List Record) (r : Record) :
    lastEnded before (ended ++ [r]) = some r.startedAt := by
  rw [lastEnded, List.getLast?_concat]
  rfl

/-- **Runs end one after another**, each at a reading of the clock that is not before its start. -/
structure InTime (readings : List Instant) (ended : List Record) : Prop where
  read : ∀ r ∈ ended, ∃ c ∈ readings, r.completedAt = some c ∧ r.startedAt ≤ c
  inOrder : ended.Pairwise fun r r' => ∀ c ∈ r.completedAt, ∀ c' ∈ r'.completedAt, c ≤ c'

theorem InTime.mono (h : InTime readings ended) (hmore : ∀ t ∈ readings, t ∈ readings') :
    InTime readings' ended where
  read r hr := by
    obtain ⟨c, hc, hread⟩ := h.read r hr
    exact ⟨c, hmore c hc, hread⟩
  inOrder := h.inOrder

/-- No run ends after the one that ends last. -/
theorem InTime.le_last (h : InTime readings ended) {last r : Record} (hlast : last ∈ ended.getLast?)
    (hr : r ∈ ended) : ∀ c ∈ r.completedAt, ∀ c' ∈ last.completedAt, c ≤ c' := by
  obtain ⟨earlier, rfl⟩ := List.getLast?_eq_some_iff.mp hlast
  rcases List.mem_append.mp hr with hr | hr
  · exact (List.pairwise_append.mp h.inOrder).2.2 r hr last (List.mem_singleton_self last)
  · obtain rfl := List.mem_singleton.mp hr
    intro c hc c' hc'
    rw [Option.some.inj (hc.symm.trans hc')]
    exact Instant.le_refl c'

/-- A run that ends later than all others ends one after another with them. -/
theorem InTime.concat (h : InTime readings ended) {r : Record} {c : Instant}
    (hcompleted : r.completedAt = some c) (hread : c ∈ readings) (hstarted : r.startedAt ≤ c)
    (hlatest : ∀ r' ∈ ended, ∀ c' ∈ r'.completedAt, c' ≤ c) : InTime readings (ended ++ [r]) where
  read r' hr' := by
    rcases List.mem_append.mp hr' with hr' | hr'
    · exact h.read r' hr'
    · rw [List.mem_singleton.mp hr']
      exact ⟨c, hread, hcompleted, hstarted⟩
  inOrder := by
    refine List.pairwise_append.mpr ⟨h.inOrder, List.pairwise_singleton .., ?_⟩
    intro r' hr' r'' hr'' c' hc' c'' hc''
    -- the new one is the later one of any two
    rw [List.mem_singleton.mp hr'', hcompleted] at hc''
    rw [← Option.some.inj hc'']
    exact hlatest r' hr' c' hc'

/-- **What a request does that brings an execution to another stage**: runs still end one after another,
and what stands in the store is still the start of the one that ended last. -/
structure Advances (id : String) (x : Slot) (readings : List Instant) (ended : List Record)
    (q : Request) (rest : Operation (Except Fault Reply)) : Prop where
  stage : Stage id (q.onSlot id x) readings (ended ++ rest.ended) rest
  inTime : InTime readings (ended ++ rest.ended)
  slot : ∀ before, x.LastRan (lastEnded before ended) →
    (q.onSlot id x).LastRan (lastEnded before (ended ++ rest.ended))

/-- A run does nothing to a flow that is stored. -/
theorem onSlot_of_runAsks (id : String) (x : Slot) {q : Request} (h : Executor.RunAsks q) :
    q.onSlot id x = x := by
  cases q <;> first | rfl | exact h.elim

/-- To store a life for a flow is to put it into what stands for the flow. -/
theorem lastRan_onSlot (id : String) (x : Slot) (status : Status) (lastRun t : Option Instant) :
    ((Request.setLife id status lastRun).onSlot id x).LastRan t ↔
      (x.withLife status lastRun).LastRan t := by
  rw [Request.onSlot_setLife, if_pos rfl]

/-- A request that keeps the last run, and ends no run, brings an execution to another stage and does
nothing else. -/
theorem Advances.of_keeps {q : Request} (hslot : ∀ t, x.LastRan t → (q.onSlot id x).LastRan t)
    (hended : rest.ended = []) (htime : InTime readings ended)
    (h : Stage id (q.onSlot id x) readings ended rest) : Advances id x readings ended q rest := by
  have hsame : ended ++ rest.ended = ended := by rw [hended, List.append_nil]
  exact ⟨hsame.symm ▸ h, hsame.symm ▸ htime, fun before => hsame.symm ▸ hslot _⟩

section Answered

variable {q : Request} {next : q.Answer → Operation (Except Fault Reply)}

theorem Opens.answered (h : Opens id (.ask q next)) (htime : InTime readings ended) (a : q.Answer)
    (hread : ∀ t ∈ Transcript.reading? ⟨q, a⟩, t ∈ readings) :
    Advances id x readings ended q (next a) := by
  cases h with
  | names h => exact .of_keeps (fun _ ht => ht) (h a).ended_eq_nil htime (.opens (h a))
  | starts h =>
    exact .of_keeps (fun _ ht => ht) (h a).ended_eq_nil htime (.underway (hread a rfl) (h a))

theorem Underway.answered (h : Underway id startedAt (.ask q next)) (hstarted : startedAt ∈ readings)
    (htime : InTime readings ended) (a : q.Answer)
    (hread : ∀ t ∈ Transcript.reading? ⟨q, a⟩, t ∈ readings)
    (hclock : ∀ t ∈ Transcript.reading? ⟨q, a⟩, ∀ t' ∈ readings, t' ≤ t) :
    Advances id x readings ended q (next a) := by
  cases h with
  | walks hq h =>
    -- a request of the walk does nothing to the store
    have hslot := onSlot_of_runAsks id x (runAsks_of_asks hq)
    exact .of_keeps (fun _ ht => hslot.symm ▸ ht) (h a).ended_eq_nil htime (.underway hstarted (h a))
  | ends h =>
    obtain ⟨fin, rfl, hcompleted, htrig, hcloses⟩ := h a
    -- the runs that have ended before have looked at the clock before
    have hlatest : ∀ r ∈ ended, ∀ c ∈ r.completedAt, c ≤ a := by
      intro r hr c hc
      obtain ⟨c', hc', hr, -⟩ := htime.read r hr
      obtain rfl := Option.some.inj (hr.symm.trans hc)
      exact hclock a rfl _ hc'
    exact .of_keeps (fun _ ht => ht) hcloses.ended_eq_nil htime
      (.closes hcompleted (hread a rfl) (hclock a rfl _ hstarted) hlatest htrig hcloses)

theorem Closes.answered {completedAt : Instant} (h : Closes id fin (.ask q next))
    (hcompleted : fin.record.completedAt = some completedAt) (hread : completedAt ∈ readings)
    (hstarted : fin.record.startedAt ≤ completedAt)
    (hlatest : ∀ r ∈ ended, ∀ c ∈ r.completedAt, c ≤ completedAt)
    (htrig : fin.flow.trigger?.isSome) (htime : InTime readings ended) (a : q.Answer) :
    Advances id x readings ended q (next a) := by
  -- whatever is told or added to the log on the way, the run is still closing
  have hstays : ∀ {rest}, Closes id fin rest → Stage id x readings ended rest :=
    .closes hcompleted hread hstarted hlatest htrig
  cases h with
  | publishes h => exact .of_keeps (fun _ ht => ht) (h a).ended_eq_nil htime (hstays (h a))
  | appends h => exact .of_keeps (fun _ ht => ht) (h a).ended_eq_nil htime (hstays (h a))
  | @stores _ next h =>
    -- this is the end of the run, and no other run has ended since it looked at the clock
    have hended : (next a).ended = [fin.record] := by
      rw [h a, Interaction.ended, if_pos htrig]
    refine ⟨h a ▸ .done _, ?_, fun before _ => ?_⟩
    · rw [hended]
      exact htime.concat hcompleted hread hstarted hlatest
    · rw [hended, lastEnded_concat]
      exact (lastRan_onSlot ..).mpr (Slot.lastRan_withLife ..)

theorem Returns.answered (h : Returns id lastRun (.ask q next)) (hx : x.LastRan lastRun)
    (htime : InTime readings ended) (a : q.Answer) : Advances id x readings ended q (next a) := by
  cases h with
  | asks hq _ h =>
    have hslot := onSlot_of_runAsks id x hq
    exact .of_keeps (fun _ ht => hslot.symm ▸ ht) (h a).ended_eq_nil htime
      (hslot.symm ▸ .returns hx (h a))
  | stores h =>
    exact .of_keeps (fun _ ht => (lastRan_onSlot ..).mpr (ht.withLife hx _)) (h a).ended_eq_nil
      htime (.returns ((lastRan_onSlot ..).mpr (Slot.lastRan_withLife ..)) (h a))

/-- **A request of an execution that is answered** brings it to its next stage. -/
theorem Stage.answered (h : Stage id x readings ended (.ask q next)) (htime : InTime readings ended)
    (a : q.Answer) (hreadings : readings' = readings ++ (Transcript.reading? ⟨q, a⟩).toList)
    (hclock : readings'.Pairwise (· ≤ ·)) :
    Advances id x readings' ended q (next a) := by
  have hmore : ∀ t ∈ readings, t ∈ readings' := fun t ht =>
    hreadings ▸ List.mem_append_left _ ht
  have hread : ∀ t ∈ Transcript.reading? ⟨q, a⟩, t ∈ readings' := fun t ht =>
    hreadings ▸ List.mem_append_right _ (Option.mem_toList.mpr ht)
  have htime' := htime.mono hmore
  cases h with
  | @marks lastRun next hx h =>
    -- to mark the flow changes its status, and keeps the last run that it has loaded
    have hkeeps : ∀ t, x.LastRan t → ((Request.setLife id .running lastRun).onSlot id x).LastRan t :=
      fun _ ht => (lastRan_onSlot ..).mpr (ht.withLife hx _)
    rcases h a with h | ⟨e, h⟩
    · exact .of_keeps hkeeps h.ended_eq_nil htime' (.opens h)
    · rw [h]
      exact .of_keeps hkeeps rfl htime' (.done _)
  | opens h => exact h.answered htime' a hread
  | underway hstarted h =>
    refine h.answered (hmore _ hstarted) htime' a hread fun t ht t' ht' => ?_
    -- a reading is not before any other, itself included
    rw [hreadings, show Transcript.reading? ⟨q, a⟩ = some t from ht] at ht' hclock
    rcases List.mem_append.mp ht' with ht' | ht'
    · exact (List.pairwise_append.mp hclock).2.2 t' ht' t (List.mem_singleton_self t)
    · rw [List.mem_singleton.mp ht']
      exact Instant.le_refl t
  | closes hcompleted hread' hstarted hlatest htrig h =>
    exact h.answered hcompleted (hmore _ hread') hstarted hlatest htrig htime' a
  | returns hx h => exact h.answered hx htime' a

end Answered

end Stages

/-! ### What an execution goes through -/

section Executions

variable {x : Executor} {id : String} {flow : Flow} {ctx : Context} {startedAt : Instant}
  {readings : List Instant} {ended : List Record}

/-- What an execution does once its run is over. -/
def afterRun (id : String) (fin : Finished) : Operation (Except Fault Reply) :=
  if fin.flow.lastRun.isSome then
    .ask (.setLife id fin.flow.status fin.flow.lastRun) fun _ => .done (.ok (.finished fin))
  else .done (.ok (.finished fin))

theorem launch_reply (x : Executor) (id : String) (flow : Flow) (ctx : Context) :
    (Flows.launch x id flow ctx).reply .finished
      = Interaction.bind (x.run flow ctx) (afterRun id) := by
  show Interaction.bind (Flows.launch x id flow ctx).run _ = _
  rw [Flows.launch_run, Interaction.bind_assoc]
  refine congrArg (Interaction.bind (x.run flow ctx)) (funext fun fin => ?_)
  unfold afterRun
  split <;> rfl

/-- A walk is on the way to the end of a run. -/
theorem Underway.of_bind {α : Type} {o : Operation α} {f : α → Operation (Except Fault Reply)}
    (ho : o.Meets (fun _ _ => True) Asks fun _ => True) (hf : ∀ a, Underway id startedAt (f a)) :
    Underway id startedAt (Interaction.bind o f) := by
  induction o with
  | done a => exact hf a
  | ask q next ih => exact .walks ho.1 fun a => ih a (ho.2 a trivial)

/-- **A run from a trigger** makes its id, looks when it starts, walks, and closes. -/
theorem launch_opens (htrig : flow.trigger?.isSome) :
    Opens id ((Flows.launch x id flow ctx).reply .finished) := by
  obtain ⟨v, hv⟩ := Option.isSome_iff_exists.mp htrig
  -- the id and the start come first, and then two events
  rw [launch_reply, Executor.run_of_trigger hv]
  refine .names fun runId => .starts fun startedAt => ?_
  refine .walks trivial fun _ => .walks trivial fun _ => ?_
  show Underway id startedAt (Interaction.bind (Interaction.bind _ _) _)
  rw [Interaction.bind_assoc]
  refine Underway.of_bind (Executor.walk_meets ..) fun e => .ends fun completedAt => ?_
  refine ⟨finished flow ctx runId startedAt completedAt e, rfl, rfl, htrig, ?_⟩
  -- the run is over, and there is a last run to store
  exact .publishes fun _ => .publishes fun _ => .appends fun _ => .stores fun _ => rfl

/-- **A run without a trigger** leaves the flow as it was loaded. -/
theorem launch_returns (htrig : flow.trigger? = none) :
    Returns id flow.lastRun ((Flows.launch x id flow ctx).reply .finished) := by
  rw [launch_reply, Executor.run_of_no_trigger htrig]
  refine .asks trivial nofun fun runId => .asks trivial nofun fun startedAt =>
    .asks trivial nofun fun completedAt => .asks trivial nofun fun _ => .asks trivial nofun fun _ => ?_
  show Returns id flow.lastRun (afterRun id (Executor.idle flow ctx runId startedAt completedAt))
  unfold afterRun
  split
  · exact .stores fun _ => .done htrig
  · exact .done htrig

/-- **An execution that has loaded its flow** is at one of its stages, if what it has loaded is what
stands in the store. -/
theorem Advances.of_resume {y : Slot} {found : Except Fault (Option Flow)}
    (hfound : ∀ flow, found = .ok (some flow) → y.LastRan flow.lastRun)
    (htime : InTime readings ended) :
    Advances id y readings ended (.get id) ((Flows.resume x id ctx found).reply .finished) := by
  have hkeeps : ∀ t, y.LastRan t → ((Request.get id).onSlot id y).LastRan t := fun _ ht => ht
  match found with
  | .error e => exact .of_keeps hkeeps rfl htime (.done _)
  | .ok none => exact .of_keeps hkeeps rfl htime (.done _)
  | .ok (some flow) =>
    cases htrig : flow.trigger? with
    | none =>
      rw [Flows.resume_of_no_trigger htrig]
      -- without a trigger nothing is run, and what is stored at the end is what was loaded
      have hreturns : Returns id flow.lastRun ((Flows.launch x id flow ctx).reply .finished) :=
        launch_returns htrig
      exact .of_keeps hkeeps hreturns.ended_eq_nil htime (.returns (hfound flow rfl) hreturns)
    | some v =>
      have hsome : flow.trigger?.isSome := by rw [htrig]; rfl
      show Advances id y readings ended _ (Interaction.bind (Flows.resume x id ctx _).run _)
      rw [Flows.resume_of_trigger hsome]
      refine .of_keeps hkeeps rfl htime (.marks (hfound flow rfl) fun a => ?_)
      cases a with
      | error e => exact .inr ⟨e, rfl⟩
      | ok _ => exact .inl (launch_opens hsome)

end Executions

end Flowgraph
