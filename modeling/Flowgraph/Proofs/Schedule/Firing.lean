import Flowgraph.Proofs.Session.Quiet
import Flowgraph.Proofs.Time.Calendar
import Flowgraph.Schedule.Scheduler

/-!
# What a scheduler fires

A scheduler keeps the schedules whose expressions can be read, in order.  Whether one of them ticks
again, and when, is taken as it is.  The first tick that comes for any of them is the one at which the
scheduler fires, and it fires all that tick at it (`Scheduler.Fires`, `Scheduler.tick_cases`).  Each of
them is announced when it fires, and its run is started and has not begun (`Scheduler.foldl_fire`).
-/

namespace Flowgraph

namespace Scheduler

/-! ### The schedules that are kept -/

/-- **A scheduler keeps the schedules whose expressions can be read**, in order. -/
theorem kept_ofSchedules (ss : List Schedule) :
    (ofSchedules ss).kept.map (·.schedule)
      = ss.filter fun s => (Calendar.read? s.cron).isSome := by
  show (ss.filterMap _).map _ = _
  induction ss with
  | nil => rfl
  | cons s rest ih =>
    cases hread : Calendar.read? s.cron with
    | none => simpa [ScheduledFlow.ofSchedule?, hread] using ih
    | some c => simpa [ScheduledFlow.ofSchedule?, hread] using ih

/-- Each of them has the calendar that its expression stands for. -/
theorem calendar_of_kept {ss : List Schedule} {f : ScheduledFlow} (hf : f ∈ (ofSchedules ss).kept) :
    Calendar.read? f.schedule.cron = some f.calendar := by
  obtain ⟨s, -, hs⟩ := List.mem_filterMap.mp hf
  obtain ⟨c, hc, rfl⟩ := Option.map_eq_some_iff.mp hs
  exact hc

/-! ### The earliest tick -/

/-- **An instant is the earliest of the next ticks**: one of the schedules ticks at it, and none
before. -/
def IsEarliest (next : ScheduledFlow → Option Instant) (fs : List ScheduledFlow) (t : Instant) : Prop :=
  (∃ f ∈ fs, next f = some t) ∧ ∀ f ∈ fs, ∀ u, next f = some u → t ≤ u

/-- **There is an earliest tick** unless no schedule ticks any more. -/
theorem earliest?_cases (next : ScheduledFlow → Option Instant) (fs : List ScheduledFlow) :
    (earliest? next fs = none ∧ ∀ f ∈ fs, next f = none) ∨
      ∃ t, earliest? next fs = some t ∧ IsEarliest next fs t := by
  induction fs with
  | nil => exact .inl ⟨rfl, nofun⟩
  | cons f rest ih =>
    have hcons : earliest? next (f :: rest) = earlier (next f) (earliest? next rest) := rfl
    rw [hcons]
    cases hf : next f with
    | none =>
      -- this schedule does not count
      have hskip : earlier none (earliest? next rest) = earliest? next rest := rfl
      rw [hskip]
      rcases ih with ⟨hnone, hall⟩ | ⟨t, ht, ⟨g, hg, hgt⟩, hmin⟩
      · exact .inl ⟨hnone, List.forall_mem_cons.mpr ⟨hf, hall⟩⟩
      · refine .inr ⟨t, ht, ⟨g, List.mem_cons_of_mem _ hg, hgt⟩, List.forall_mem_cons.mpr ⟨?_, hmin⟩⟩
        exact fun u hu => nomatch hf.symm.trans hu
    | some s =>
      have hself : ∀ u, next f = some u → s ≤ u := fun u hu =>
        Option.some.inj (hf.symm.trans hu) ▸ s.le_refl
      rcases ih with ⟨hnone, hall⟩ | ⟨t, ht, ⟨g, hg, hgt⟩, hmin⟩
      · rw [hnone]
        refine .inr ⟨s, rfl, ⟨f, List.mem_cons_self .., hf⟩, List.forall_mem_cons.mpr ⟨hself, ?_⟩⟩
        exact fun g hg u hu => nomatch (hall g hg).symm.trans hu
      · rw [ht]
        -- this schedule ticks no later than the others, or one of them ticks before it
        by_cases hle : s ≤ t
        · refine .inr ⟨s, congrArg some (if_pos hle), ⟨f, List.mem_cons_self .., hf⟩, ?_⟩
          exact List.forall_mem_cons.mpr ⟨hself, fun g hg u hu => Instant.le_trans hle (hmin g hg u hu)⟩
        · have hlater : t ≤ s := (Instant.le_total s t).resolve_left hle
          refine .inr ⟨t, congrArg some (if_neg hle), ⟨g, List.mem_cons_of_mem _ hg, hgt⟩, ?_⟩
          exact List.forall_mem_cons.mpr ⟨fun u hu => Instant.le_trans hlater (hself u hu), hmin⟩

/-- What a kept schedule ticks at next. -/
def nextTick (w : World) (f : ScheduledFlow) : Option Instant := f.calendar.next? w.clock

/-- The time at which an instant comes. -/
def timeOf (w : World) (t : Instant) : Nat := w.time + (t.nanosSince w.clock / 1000000).toNat

/-- **What a scheduler fires first**, from a moment on: all that tick at the earliest tick, or nothing if
there is none or the scheduler is cancelled before it. -/
inductive Fires (sch : Scheduler) (cancelAt : Option Nat) (w : World) : List ScheduledFlow → Prop
  | never (h : ∀ f ∈ sch.kept, nextTick w f = none) : Fires sch cancelAt w []
  | cancelled (t : Instant) (ht : IsEarliest (nextTick w) sch.kept t) (c : Nat)
      (hc : cancelAt = some c) (hlt : c < timeOf w t) : Fires sch cancelAt w []
  | due (t : Instant) (ht : IsEarliest (nextTick w) sch.kept t)
      (hc : ∀ c, cancelAt = some c → timeOf w t ≤ c) :
      Fires sch cancelAt w (sch.kept.filter fun f => nextTick w f = some t)

theorem nextFiring?_cases (sch : Scheduler) (w : World) :
    (sch.nextFiring? w.clock = none ∧ ∀ f ∈ sch.kept, nextTick w f = none) ∨
      ∃ t, IsEarliest (nextTick w) sch.kept t ∧
        sch.nextFiring? w.clock = some (t, sch.kept.filter fun f => nextTick w f = some t) := by
  rcases earliest?_cases (nextTick w) sch.kept with ⟨hnone, hall⟩ | ⟨t, ht, hleast⟩
  · exact .inl ⟨congrArg (Option.map _) hnone, hall⟩
  · exact .inr ⟨t, hleast, congrArg (Option.map _) ht⟩

/-! ### A tick -/

/-- A session with nothing in the background waits, and only time passes. -/
theorem passTo_start (w : World) (time : Nat) :
    (Session.start w : Runs).passTo time = .start { w with time := max time w.time } := by
  have hquiet : (Session.start w : Runs).IsQuiet := fun j hj => absurd hj List.not_mem_nil
  exact hquiet.passTo_eq time

theorem tick_start (sch : Scheduler) (x : Executor) (cancelAt : Option Nat) (w : World) :
    sch.tick x cancelAt (.start w) =
      match sch.nextFiring? w.clock with
      | none => ([], (cancelAt.map fun c => (Session.start w.tick.2).passTo c).getD (.start w.tick.2))
      | some (t, due) =>
        if World.earlier (timeOf w t) cancelAt < timeOf w t then
          ([], (Session.start w.tick.2).passTo (World.earlier (timeOf w t) cancelAt))
        else (due, due.foldl (fire x) ((Session.start w.tick.2).passTo (timeOf w t))) := rfl

/-- **A scheduler fires what is due**, after some time has passed. -/
theorem tick_cases (sch : Scheduler) (x : Executor) (cancelAt : Option Nat) (w : World) :
    ∃ fired time, sch.Fires cancelAt w fired ∧
      sch.tick x cancelAt (.start w)
        = (fired, fired.foldl (fire x) (.start { w.tick.2 with time })) := by
  rw [tick_start]
  rcases sch.nextFiring?_cases w with ⟨hnone, hnever⟩ | ⟨t, ht, hnext⟩
  · -- it waits until it is cancelled, if it ever is
    rw [hnone]
    cases cancelAt with
    | none => exact ⟨[], w.time, .never hnever, rfl⟩
    | some c => exact ⟨[], max c w.time, .never hnever, congrArg (Prod.mk []) (passTo_start _ c)⟩
  · -- the cancellation comes first, or else what is due is fired
    simp only [hnext, passTo_start]
    split
    · next hearlier =>
      cases cancelAt with
      | none => exact absurd hearlier (Nat.lt_irrefl _)
      | some c =>
        have hlt : c < timeOf w t := by
          rw [World.earlier] at hearlier
          omega
        exact ⟨[], _, .cancelled t ht c rfl hlt, rfl⟩
    · next hlater =>
      refine ⟨_, _, .due t ht ?_, rfl⟩
      rintro c rfl
      rw [World.earlier] at hlater
      omega

/-- The run of a schedule that has fired, when it has been started. -/
def started (x : Executor) (turn era : Nat) (f : ScheduledFlow) : Job (Except Fault Executor.Finished) :=
  ⟨turn, era, none, .due (Flows.execute x f.schedule.flowId f.context).run⟩

/-- **All that is due is announced, and all its runs are started**, in order. -/
theorem foldl_fire (x : Executor) (fired : List ScheduledFlow) (s : Runs) :
    fired.foldl (fire x) s = { s with
      world := { s.world with unread := (fired.map (·.announcement)).reverse ++ s.world.unread }
      jobs := s.jobs ++ fired.mapIdx fun i f => started x (s.turns + i) s.era f
      turns := s.turns + fired.length } := by
  induction fired generalizing s with
  | nil => rw [List.mapIdx_nil, List.append_nil]; rfl
  | cons f rest ih =>
    have hturn : ∀ i, s.turns + 1 + i = s.turns + (i + 1) := fun i => by omega
    rw [List.foldl_cons, ih, List.map_cons, List.reverse_cons, List.append_assoc, List.mapIdx_cons,
      List.length_cons]
    simp only [fire, Runs.execute, Session.spawn, List.append_assoc, hturn]
    rfl

end Scheduler

end Flowgraph
