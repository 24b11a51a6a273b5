import Flowgraph.Proofs.Schedule.Runs

/-!
# The first tick of a scheduler

`Scheduler.first_tick` says what comes of the first tick of any schedules over any store: what fires
and when it is announced, that all the runs end, by themselves or by a shutdown, and what the log has of
them by then.

A flow is there for a schedule if it can be loaded when the scheduler begins.  How many of the schedules
that fire run one flow does not matter, since a run keeps its flow such that it can be loaded.  For a
store in rows this needs the last runs in it and the readings of the clock to be legible, and the log to
have none of the ids that are made for the runs (`World.ReadyUntil`): a last run that has been written
by a request and can be read at all is read back, so only rows that others have written may hold another
one.  A store in memory needs nothing (`World.readyUntil_of_memory`).
-/

namespace Flowgraph

namespace Scheduler

/-- **What comes of the first tick** of a scheduler of some schedules, in a world with nothing in the
background: what has fired, and the session just afterwards. -/
structure FirstTick (ss : List Schedule) (x : Executor) (cancelAt : Option Nat) (w : World)
    (fired : List ScheduledFlow) (s : Runs) : Prop where
  /-- The schedules whose expressions can be read are kept, in order. -/
  kept : (ofSchedules ss).kept.map (·.schedule)
    = ss.filter fun schedule => (Calendar.read? schedule.cron).isSome
  calendar : ∀ f ∈ (ofSchedules ss).kept, Calendar.read? f.schedule.cron = some f.calendar
  /-- All those that tick at the earliest tick fire, in order. -/
  fires : (ofSchedules ss).Fires cancelAt w fired
  /-- Each of them is announced once, by its name and its flow, and its run has not begun by then. -/
  announced : s.world.unread
    = (fired.map fun f => .scheduleFired f.schedule.name f.schedule.flowId).reverse ++ w.unread
  store : s.world.store = w.store
  jobs : s.jobs = fired.mapIdx fun i f => started x i 0 f
  /-- What is published from then on comes behind, and no run announces a schedule, whatever the
  background does. -/
  told : ∀ s', s.GoesOn s' → ∃ told : List Event, s'.world.unread = told.reverse ++ s.world.unread ∧
    ∀ e ∈ told, ∀ schedule flow, e ≠ .scheduleFired schedule flow
  /-- The log has what the runs leave, and nothing else, whatever the background does. -/
  recorded : ∀ s', s.GoesOn s' → s.world.ReadyUntil s'.world →
    Recorded s.world fired (fun _ => False) s'
  /-- The runs end by themselves when enough time passes. -/
  ends : ∀ s', s.GoesOn s' → ∃ enough, ∀ time, enough ≤ time →
    s.GoesOn (s'.passTo time) ∧ ∀ i < fired.length, HasEnded (s'.passTo time) i
  /-- They end when the scheduler shuts down, and those that are suspended then are cut short. -/
  cutShort : ∀ s', s.GoesOn s' → s.GoesOn (shutDown s') ∧
    (∀ i < fired.length, HasEnded (shutDown s') i) ∧
    (s.world.ReadyUntil (shutDown s').world →
      Recorded s.world fired (IsSuspended s') (shutDown s'))

/-- **The first tick of a scheduler.** -/
theorem first_tick (ss : List Schedule) (x : Executor) (cancelAt : Option Nat) (w : World)
    (hw : w.store.Orderly) :
    FirstTick ss x cancelAt w ((ofSchedules ss).tick x cancelAt (.start w)).1
      ((ofSchedules ss).tick x cancelAt (.start w)).2 := by
  obtain ⟨fired, time, hfires, htick⟩ := (ofSchedules ss).tick_cases x cancelAt w
  rw [htick]
  -- the runs that have been started are tasks that take turns, and whatever the background does
  -- next is again a course of them
  obtain ⟨sys, hsys, hplays⟩ := exists_plays x fired { w.tick.2 with time }
  have hs := foldl_fire x fired (.start { w.tick.2 with time })
  generalize fired.foldl (fire x) (.start { w.tick.2 with time }) = s at hsys hplays hs ⊢
  have hstore : s.world.store = w.store := by rw [hs]; rfl
  have horderly : s.world.store.Orderly := hstore ▸ hw
  refine ⟨kept_ofSchedules ss, fun f => calendar_of_kept, hfires, ?_, hstore, ?_, ?_, ?_, ?_, ?_⟩
  · rw [hs]
    rfl
  · rw [hs]
    simp [Session.start, Session.era]
  · intro s' hs'
    obtain ⟨sys', hreach, hplays'⟩ := hplays.goesOn hs'
    exact told_of_plays (hsys.trans hreach) hplays'
  · intro s' hs' hready
    obtain ⟨sys', hreach, hplays'⟩ := hplays.goesOn hs'
    exact recorded_of_plays (hsys.trans hreach) hplays' horderly hready fun _ => False.elim
  · intro s' hs'
    -- once the background is quiet, each of the runs is over
    obtain ⟨enough, henough⟩ := s'.exists_isQuiet_passTo
    refine ⟨enough, fun time htime => ?_⟩
    have hgoes := hs'.trans (Session.goesOn_passTo time s')
    obtain ⟨sys', -, hplays'⟩ := hplays.goesOn hgoes
    exact ⟨hgoes, fun i hi => hasEnded_of_isQuiet hplays' (henough time htime) hi⟩
  · intro s' hs'
    obtain ⟨sys', hreach, hplays'⟩ := hplays.goesOn hs'
    -- to shut down is one more course of the tasks, at the end of which nothing is left to do
    obtain ⟨sys₃, hreach₃, hplays₃, hcut⟩ := exists_plays_shutDown hplays'
    refine ⟨hs'.trans (goesOn_shutDown s'), fun i hi => ?_, fun hready => ?_⟩
    · exact hasEnded_of_isQuiet hplays₃ (isQuiet_shutDown s') hi
    · exact recorded_of_plays (hsys.trans (hreach.trans hreach₃)) hplays₃ horderly hready hcut

/-- A world with a flow that rests for a second in its run. -/
def restful : World :=
  let flow : Flow := .fresh "rest" "Rest" "" ⟨[⟨"start", "trigger", Json.empty, .origin⟩,
    ⟨"rest", "delay", Json.empty, .origin⟩], [⟨"on", "start", "rest", none, none⟩]⟩ ⟨0, 0⟩
  .start (.memory ⟨[flow], []⟩) ⟨0, 0⟩

def rester : Executor :=
  let delay : Handler := fun _ ctx => ⟨1000, .ok (.next ctx.input), ctx⟩
  ⟨Registry.empty.register "delay" delay, 2⟩

/-- Two schedules of the flow that share a tick, one between them that makes no sense, and one whose
tick comes later. -/
def sharing : List Schedule :=
  [⟨"hourly", "rest", "0 0 * * * *", some (.str "urgent")⟩, ⟨"broken", "rest", "hourly", none⟩,
    ⟨"daily", "rest", "0 0 0 * * *", none⟩, ⟨"again", "rest", "@hourly", none⟩]

/-- Their first tick. -/
def sharedTick : List ScheduledFlow × Runs := (ofSchedules sharing).tick rester none (.start restful)

/-- Both runs have begun and rest. -/
def bothResting : Runs := [0, 1].foldl Session.advance sharedTick.2

/-- **The two schedules fire, and both runs are cut short** when the scheduler shuts down. -/
theorem first_tick_sharing :
    restful.store.Orderly ∧ sharedTick.1.map (·.schedule.name) = ["hourly", "again"] ∧
      (∀ i < 2, IsSuspended bothResting i) ∧ (∀ i < 2, HasEnded (shutDown bothResting) i) ∧
      Recorded sharedTick.2.world sharedTick.1 (IsSuspended bothResting) (shutDown bothResting) := by
  have horderly : restful.store.Orderly := ⟨List.nodup_singleton _, trivial⟩
  have hfired : sharedTick.1.map (·.schedule.name) = ["hourly", "again"] := by decide +kernel
  have hsuspended : ∀ i < 2, IsSuspended bothResting i := by decide +kernel
  have htick : FirstTick sharing rester none restful sharedTick.1 sharedTick.2 :=
    first_tick sharing rester none restful horderly
  obtain ⟨-, hended, hrecorded⟩ := htick.cutShort bothResting (Session.goesOn_advance _ [0, 1])
  have hlength : sharedTick.1.length = 2 := by
    rw [← List.length_map, hfired]
    rfl
  refine ⟨horderly, hfired, hsuspended, fun i hi => hended i (hlength ▸ hi), ?_⟩
  -- a store in memory takes whatever the runs bring
  exact hrecorded (World.readyUntil_of_memory htick.store _)

end Scheduler

end Flowgraph
