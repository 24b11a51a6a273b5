import Flowgraph.Proofs.Concurrent.StoredGraphs
import Flowgraph.Proofs.Store.Lives

/-!
# Status and last run go together

A flow that is inactive has no last run, and a flow that is active or in error has one.  The two are
always stored together, but each by a call that has loaded the flow at another time; so the invariant
is about store and calls together, as it is for graphs: the store tells of fitting lives only, and
each call has loaded fitting lives only (`Task.Informed`).  Then whatever the call stores next fits
as well (`Call.operation_meets_lives`), and the store is right at every moment
(`System.status_fits_lastRun`).
-/

namespace Flowgraph

/-- **A status goes with there being a last run**, or with there being none. -/
def Status.Fits (status : Status) (hasRun : Bool) : Prop :=
  match status with
  | .inactive => hasRun = false
  | .active | .error => hasRun = true
  | .running => True

/-- In the life of a flow, status and last run go together. -/
def Flow.Fits (f : Flow) : Prop := f.status.Fits f.lastRun.isSome

/-- In a life as it is stored, status and last run go together. -/
def Life.Fits (l : Life) : Prop :=
  ∃ status : Status, l.status = status.text ∧ status.Fits l.lastRun.isSome

theorem Life.Tells.fits {l : Life} {f : Flow} (h : l.Tells f) (hl : l.Fits) : f.Fits := by
  obtain ⟨status, htext, hfits⟩ := hl
  have hstatus : status = f.status := Status.text_injective (htext.symm.trans h.status)
  rw [hstatus, h.lastRun] at hfits
  exact hfits

theorem Life.fits_ofFlow {f : Flow} (h : f.Fits) : (ofFlow f).Fits := by
  refine ⟨f.status, rfl, ?_⟩
  have hsome : (ofFlow f).lastRun.isSome = f.lastRun.isSome := Option.isSome_map
  rw [hsome]
  exact h

/-! ### What calls store -/

/-- What a request makes of the life of a flow fits. -/
def Request.StoresFit : Request → Prop
  | .insert f => f.Fits
  | .setLife _ status lastRun => status.Fits lastRun.isSome
  | _ => True

/-- The life of a flow that has been loaded fits. -/
def Request.LoadsFit : (q : Request) → q.Answer → Prop
  | .get _, found => ∀ flow, found = .ok (some flow) → flow.Fits
  | _, _ => True

/-- Fitting lives stay so, if what is stored fits. -/
theorem Request.StoresFit.onLives {q : Request} (hq : q.StoresFit) {lives : List Life}
    (h : ∀ l ∈ lives, l.Fits) : ∀ l ∈ q.onLives lives, l.Fits := by
  intro l hl
  rcases Request.mem_onLives hl with ⟨f, rfl, rfl⟩ | ⟨status, lastRun, hset, hstatus, hlast⟩ | ⟨hold, -⟩
  · exact Life.fits_ofFlow hq
  · -- what has been stored now has a status that goes with its last run
    rw [hset] at hq
    have hfits : status.Fits lastRun.isSome := hq
    refine ⟨status, hstatus, ?_⟩
    rw [hlast, Option.isSome_map]
    exact hfits
  · exact h l hold

/-- A run stores no life. -/
theorem Request.storesFit_of_runAsks {q : Request} (h : Executor.RunAsks q) : q.StoresFit := by
  cases q <;> first | exact trivial | exact absurd h id

/-- **What a run leaves fits** if the flow was fit before: without a trigger it is the same, and
otherwise there is a last run. -/
theorem Executor.Leaves.fits {flow flow' : Flow} (h : Leaves flow flow')
    (hflow : flow.Fits) : flow'.Fits := by
  cases h with
  | idle _ => exact hflow
  | ended _ success startedAt => cases success <;> exact rfl

/-- **Who loads fitting lives only, stores fitting lives only.** -/
theorem Call.operation_meets_lives (call : Call) :
    call.operation.Meets Request.LoadsFit Request.StoresFit fun _ => True := by
  refine call.operation_meets_of fun q hq => ?_
  cases hq with
  | created | imported => exact rfl
  | ended hload hleaves => exact hleaves.fits (hload _ rfl)
  | ran hq => exact Request.storesFit_of_runAsks hq
  | _ => trivial

/-! ### The invariant -/

/-- **A call that has loaded fitting lives only.** -/
structure Task.Informed (t : Task) : Prop where
  after : t.call.operation.After t.past t.rest
  loads : ∀ e ∈ t.past, e.1.LoadsFit e.2

/-- **The store is in order and tells of fitting lives only.** -/
structure World.TellsFit (w : World) : Prop where
  orderly : w.store.Orderly
  fits : ∀ l ∈ w.store.lives, l.Fits

theorem World.TellsFit.loads {w : World} (hw : w.TellsFit) {id : String} {f : Flow}
    (h : w.store.get id = .ok (some f)) : f.Fits := by
  obtain ⟨-, l, hl, htells⟩ := Store.exists_tells_of_get h
  exact htells.fits (hw.fits l hl)

/-- An answer from a store that tells of fitting lives loads such a life and leaves such a store. -/
theorem Answers.tellsFit {rules : Rules} {isCancelled : Bool} {w w' : World} {q : Request}
    {a : q.Answer} (h : Answers rules isCancelled w q a w') (hw : w.TellsFit) (hq : q.StoresFit) :
    w'.TellsFit ∧ q.LoadsFit a := by
  cases h with
  | answered =>
    refine ⟨⟨World.answer_orderly hw.orderly _ q, ?_⟩, ?_⟩
    · rw [World.lives_answer hw.orderly]
      exact hq.onLives hw.fits
    · cases q with
      | get id => exact fun flow h => hw.loads h
      | _ => trivial
  | elapsed n => exact ⟨hw, trivial⟩
  | refused _ _ _ _ ha =>
    refine ⟨hw, ?_⟩
    cases q <;> trivial

theorem Task.Informed.preserves : Rules.closed.Preserves World.TellsFit Task.Informed := by
  -- what others change is not the store
  refine .of_meets Call.operation_meets_lives
    (fun t => ⟨fun ht => ⟨ht.after, ht.loads⟩, fun ht => ⟨ht.1, ht.2⟩⟩) ?_ Answers.tellsFit
  intro w w' hw hsame
  have hstore : w'.store = w.store := hsame
  exact ⟨hstore ▸ hw.orderly, hstore ▸ hw.fits⟩

/-- **Status and last run go together at every moment.**  Begin with an empty store of either kind,
and let any calls come in at any time, each of their requests be answered at one moment and refused
at will.  Then in every flow that is stored, and in every flow that is loaded by its id or listed,
the status is one that goes with the last run: there is none if the flow is inactive, and there is
one if it is active or in error. -/
theorem System.status_fits_lastRun {w : World}
    (hw : w.store = .memory .empty ∨ w.store = .rows .empty) {s : System}
    (hs : System.Reaches .closed (.idle w) s) :
    (∀ l ∈ s.world.store.lives, l.Fits) ∧
      (∀ id flow, s.world.store.get id = .ok (some flow) → flow.Fits) ∧
      ∀ flows, s.world.store.list = .ok flows → ∀ flow ∈ flows, flow.Fits := by
  -- there are no lives in the store at the beginning
  have hstart : w.TellsFit := by
    rcases hw with hw | hw
    · exact ⟨hw ▸ Store.orderly_empty_memory, by rw [hw]; exact nofun⟩
    · exact ⟨hw ▸ Store.orderly_empty_rows, by rw [hw]; exact nofun⟩
  obtain ⟨hworld, -⟩ := Task.Informed.preserves.reached hstart hs
  refine ⟨hworld.fits, fun id flow h => hworld.loads h, fun flows h flow hflow => ?_⟩
  -- each flow of the list has the life of one that is stored
  obtain ⟨l, hl, htells⟩ := Store.exists_tells_of_list h flow hflow
  exact htells.fits (hworld.fits l hl)

namespace System

/-- A flow that is deleted and imported again while it is run. -/
def revivedMidway : List Move :=
  let loop : Flow :=
    .fresh "loop" "Loop" "" ⟨[⟨"start", "trigger", Json.empty, .origin⟩],
      [⟨"back", "start", "start", none, none⟩]⟩ ⟨0, 0⟩
  let run : Call := .execute ⟨.empty, 1⟩ "loop" ⟨.str "payload", []⟩
  [.call (.importFlow loop), .go 0, .call run] ++ List.replicate 5 (.go 1)
    ++ [.call (.delete "loop"), .go 2, .call (.importFlow loop), .go 3]
    ++ List.replicate 9 (.go 1)

/-- The run ends with the life of a flow that it has never loaded. -/
theorem status_fits_lastRun_revivedMidway :
    ∃ s, (idle (.start (.memory .empty) ⟨0, 0⟩)).play? revivedMidway = some s ∧
      s.world.store.list.map (·.map fun flow => (flow.status, flow.lastRun))
        = .ok [(.error, some ⟨0, 0⟩)] ∧
      ∀ l ∈ s.world.store.lives, l.Fits := by
  have hlives : ((idle (.start (.memory .empty) ⟨0, 0⟩)).play? revivedMidway).map (fun s =>
      s.world.store.list.map (·.map fun flow => (flow.status, flow.lastRun)))
        = some (.ok [(.error, some ⟨0, 0⟩)]) := by rfl
  obtain ⟨s, hs, hs'⟩ := Option.map_eq_some_iff.mp hlives
  exact ⟨s, hs, hs', (status_fits_lastRun (.inl rfl) (reaches_of_play? hs)).1⟩

end System

end Flowgraph
