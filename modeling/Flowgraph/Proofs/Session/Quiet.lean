import Flowgraph.Proofs.Session.Alone
import Flowgraph.Session.Basic

/-!
# Sessions with a quiet background

The background of a session is quiet if none of its operations can ever go on, since each has ended
or has had its value taken.  Time then passes without anything happening, an operation in the
foreground is an operation alone (`Session.IsQuiet.runForeground`), and so is one that is started in
the background and waited for at once (`Session.IsQuiet.join_spawn`).
-/

namespace Flowgraph

/-! ### Background operations that are over -/

namespace Job

variable {α : Type} {j : Job α}

theorem wake?_of_rest? (h : j.rest? = none) : j.wake? = none := by
  unfold wake?
  cases hphase : j.phase with
  | waiting wake next => simp [rest?, hphase] at h
  | _ => rfl

theorem isDue_of_rest? (h : j.rest? = none) (time : Nat) : j.isDue time = false := by
  unfold isDue
  cases hphase : j.phase with
  | due rest => simp [rest?, hphase] at h
  | waiting wake next => simp [rest?, hphase] at h
  | _ => rfl

end Job

namespace Session

variable {α β : Type} {s : Session α}

/-- **Nothing is left to do in the background.** -/
def IsQuiet (s : Session α) : Prop := ∀ j ∈ s.jobs, j.rest? = none

/-- A session whose world has been replaced. -/
def inWorld (s : Session α) (w : World) : Session α := { s with world := w }

namespace IsQuiet

theorem dueIndices (hs : s.IsQuiet) (picked : Nat → Bool) : s.dueIndices picked = [] := by
  unfold Session.dueIndices
  rw [List.filter_eq_nil_iff.mpr]
  · simp
  · rintro ⟨j, i⟩ hmem
    have hj := hs j (List.fst_mem_of_mem_zipIdx hmem)
    simp [Job.isDue_of_rest? hj]

theorem drainWhere (hs : s.IsQuiet) (picked : Nat → Bool) : s.drainWhere picked = s := by
  unfold Session.drainWhere
  rw [hs.dueIndices]
  rfl

theorem nextWake? (hs : s.IsQuiet) : s.nextWake? = none := by
  have hnone : s.jobs.filterMap Job.wake? = [] :=
    List.filterMap_eq_nil_iff.mpr fun j hj => Job.wake?_of_rest? (hs j hj)
  unfold Session.nextWake?
  rw [hnone]
  rfl

/-- **Time passes, and nothing else happens.** -/
theorem passTo_eq (hs : s.IsQuiet) (time : Nat) : s.passTo time = s.atTime (max time s.world.time) := by
  have hdrain : s.drain = s := hs.drainWhere _
  unfold Session.passTo
  simp only [hdrain, hs.nextWake?]

theorem passTo (hs : s.IsQuiet) {time : Nat} (htime : s.world.time ≤ time) :
    s.passTo time = s.inWorld { s.world with time } := by
  rw [hs.passTo_eq, Nat.max_eq_left htime]
  rfl

/-- **An operation in the foreground is an operation alone.** -/
theorem runForeground (hs : s.IsQuiet) (o : Operation β) :
    s.runForeground none o = ((World.run o s.world).1, s.inWorld (World.run o s.world).2) := by
  induction o generalizing s with
  | done b => rfl
  | ask q next ih =>
    rcases q.wait_cases with ⟨n, rfl⟩ | hq
    · rw [World.run_wait]
      by_cases hn : n = 0
      · subst hn
        exact ih .elapsed hs
      · -- the foreground goes on when its wait is over, and finds the background as it was
        have hpass := hs.passTo (Nat.le_add_right s.world.time n)
        have hgo : s.runForeground none (.ask (.wait n) next)
            = (s.passTo (s.world.time + n)).runForeground none (next .elapsed) := by
          simp [Session.runForeground, World.isCancelledBy, hn, World.earlier, World.waited]
        rw [hgo, hpass]
        exact ih .elapsed hs
    · rw [World.run_ask hq]
      have hgo : s.runForeground none (.ask q next)
          = (s.inWorld (s.world.answer false q).2).runForeground none
            (next (s.world.answer false q).1) := by
        cases q <;> first | rfl | exact absurd rfl (hq _)
      rw [hgo]
      exact ih _ hs

section Follow

variable (i : Nat) {j : Job α} {q : Request} {next : q.Answer → Operation α}

/-- Not to wait takes no turn. -/
theorem follow_wait_zero {next : Waited → Operation α} (hcancel : j.cancelAt = none) :
    Session.follow none i j (.ask (.wait 0) next) s = Session.follow none i j (next .elapsed) s := by
  simp [Session.follow, World.isCancelledBy, hcancel]

/-- To wait takes a turn, in which time passes and nothing else happens. -/
theorem follow_wait {n : Nat} {next : Waited → Operation α} (hs : s.IsQuiet)
    (hcancel : j.cancelAt = none) (hn : n ≠ 0) :
    Session.follow none i j (.ask (.wait n) next) s
      = Session.follow none i j (next .elapsed)
        (({ s with turns := s.turns + 1 } : Session α).inWorld
          { s.world with time := s.world.time + n }) := by
  have hturn : ({ s with turns := s.turns + 1 } : Session α).IsQuiet := hs
  have hpass := hturn.passTo (Nat.le_add_right s.world.time n)
  have hlater : (({ s with turns := s.turns + 1 } : Session α).inWorld
      { s.world with time := s.world.time + n }).IsQuiet := hs
  have hgo : Session.follow none i j (.ask (.wait n) next) s
      = Session.follow none i j (next .elapsed)
        ((({ s with turns := s.turns + 1 } : Session α).passTo
          (s.world.time + n)).drainWhere (decide <| · < s.turns)) := by
    simp [Session.follow, World.isCancelledBy, hcancel, hn, World.earlier, World.waited, reaches]
  rw [hgo, hpass, hlater.drainWhere]

/-- What is asked for is answered at once, by the store in use. -/
theorem follow_ask (hera : j.era = s.era) (hcancel : j.cancelAt = none) (hq : ∀ n, q ≠ .wait n) :
    Session.follow none i j (.ask q next) s
      = Session.follow none i j (next (s.world.answer false q).1)
        (s.inWorld (s.world.answer false q).2) := by
  have hpast : s.past[j.era]? = none := by
    rw [hera]
    exact List.getElem?_eq_none (Nat.le_refl _)
  have hwithin : s.within j.era (fun w => w.answer (w.isCancelledBy j.cancelAt) q)
      = ((s.world.answer false q).1, s.inWorld (s.world.answer false q).2) := by
    rw [Session.within, hpast, hcancel]
    rfl
  cases q <;> first
    | exact absurd rfl (hq _)
    | simp only [Session.follow, hwithin]

end Follow

/-- **An operation that is waited for is an operation alone**, if it works on the store in use and is
not cancelled. -/
theorem follow (hs : s.IsQuiet) (i : Nat) {j : Job α} (hera : j.era = s.era)
    (hcancel : j.cancelAt = none) (o : Operation α) :
    ∃ turns, Session.follow none i j o s
      = (some (World.run o s.world).1,
        { s with world := (World.run o s.world).2, turns }) := by
  induction o generalizing s with
  | done a => exact ⟨s.turns, congrArg _ (hs.drainWhere _)⟩
  | ask q next ih =>
    rcases q.wait_cases with ⟨n, rfl⟩ | hq
    · rw [World.run_wait]
      by_cases hn : n = 0
      · subst hn
        rw [follow_wait_zero i hcancel]
        exact ih .elapsed hs hera
      · rw [hs.follow_wait i hcancel hn]
        exact ih .elapsed hs hera
    · rw [World.run_ask hq, follow_ask i hera hcancel hq]
      exact ih _ hs hera

/-- **To start an operation and to wait for it** is to do it alone.  The background is quiet again
afterwards. -/
theorem join_spawn (hs : s.IsQuiet) (o : Operation α) :
    ∃ s', (s.spawn o none).join none s.jobs.length = (some (World.run o s.world).1, s') ∧
      s'.world = (World.run o s.world).2 ∧ s'.IsQuiet := by
  let job : Job α := ⟨s.turns, s.era, none, .due o⟩
  -- while it is followed, the operation counts as collected
  let taken : Session α :=
    { s with jobs := s.jobs ++ [{ job with phase := .collected }], turns := s.turns + 1 }
  have htaken : taken.IsQuiet := by
    intro j hj
    rcases List.mem_append.mp hj with hj | hj
    · exact hs j hj
    · rw [List.mem_singleton.mp hj]
      rfl
  obtain ⟨turns, hfollow⟩ := htaken.follow s.jobs.length (j := job) rfl rfl o
  refine ⟨{ taken with world := (World.run o s.world).2, turns }, ?_, rfl, htaken⟩
  have hjob : (s.spawn o none).jobs[s.jobs.length]? = some job := by
    simp [Session.spawn, job]
  have hset : (s.spawn o none).setJob s.jobs.length { job with phase := .collected } = taken := by
    simp [Session.spawn, setJob, taken, job]
  unfold Session.join
  rw [hjob]
  show (if reaches none _ then _ else Session.follow none _ job o
    (((s.spawn o none).setJob s.jobs.length { job with phase := .collected }).drainWhere _)) = _
  rw [hset, htaken.drainWhere]
  exact hfollow

end IsQuiet

end Session

end Flowgraph
