import Mathlib.Logic.Hydra
import Flowgraph.Proofs.Concurrent.Session
import Flowgraph.Proofs.Session.Quiet

/-!
# The background of a session

What may happen in the background of a session is that one operation goes on until it waits or is done,
that time passes, and that an operation is cancelled (`Session.Moves`).  Everything that a session does
with its background while no other operation comes in consists of such moves (`Session.goesOn_drain`,
`Session.goesOn_passTo`, `Session.goesOn_cancel`), in whatever order it takes them.

The background comes to an end in two ways.  When all of it is cancelled, it is quiet after one more
round (`Session.isQuiet_drain_of_hurried`).  And when enough time passes, it is quiet anyway
(`Session.exists_isQuiet_passTo`): each operation has a last turn, whatever it is answered
(`Phase.turns_wf`), so they all have together, in whatever order they have their turns.
-/

namespace Flowgraph

/-! ### Turns -/

namespace Phase

variable {α : Type}

/-- **A turn**: an operation goes on from a phase until it stops. -/
def Turns (p' p : Phase α) : Prop :=
  ∃ (j : Job α) (rest : Operation α), j.phase = p ∧ j.rest? = some rest ∧
    ∃ (time : Nat) (w : World), p' = Session.phaseAt time (World.runToWait j.cancelAt rest w).1

theorem acc_ended (a : α) : Acc Turns (.ended a) := by
  refine ⟨_, ?_⟩
  rintro p' ⟨j, rest, hphase, hrest, -⟩
  rw [Job.rest?, hphase] at hrest
  cases hrest

/-- **An operation that has stopped** has a last turn, whatever it is answered. -/
theorem acc_phaseAt (o : Operation α) (cancelAt : Option Nat) (w : World) (time : Nat) :
    Acc Turns (Session.phaseAt time (World.runToWait cancelAt o w).1) := by
  induction o generalizing cancelAt w time with
  | done a => exact acc_ended a
  | ask q next ih =>
    rcases q.wait_cases with ⟨n, rfl⟩ | hq
    · rcases World.runToWait_wait cancelAt n next w with hwait | hstop
      · rw [hwait]
        exact ih _ _ _ _
      · -- it stops here, and its next turn begins with how the wait has ended
        rw [hstop]
        refine ⟨_, ?_⟩
        rintro p' ⟨j, rest, hphase, hrest, time', w', rfl⟩
        rw [Job.rest?, hphase] at hrest
        obtain rfl := Option.some.inj hrest
        exact ih _ _ _ _
    · rw [World.runToWait_ask hq]
      exact ih _ _ _ _

/-- **No operation has turns for ever.** -/
theorem turns_wf : WellFounded (@Turns α) := by
  refine ⟨fun p => ⟨p, ?_⟩⟩
  rintro p' ⟨j, rest, -, -, time, w, rfl⟩
  exact acc_phaseAt rest j.cancelAt w time

/-- One of some operations has a turn. -/
def Turned (ps' ps : List (Phase α)) : Prop :=
  ∃ (i : Nat) (p q : Phase α), ps[i]? = some p ∧ q.Turns p ∧ ps' = ps.set i q

/-- **Nor do some operations together**, in whatever order they have them. -/
theorem turned_wf : WellFounded (@Turned α) := by
  refine Subrelation.wf ?_ (InvImage.wf (fun ps : List (Phase α) => (ps : Multiset (Phase α)))
    turns_wf.cutExpand)
  rintro ps' ps ⟨i, p, q, hp, hturns, rfl⟩
  obtain ⟨hi, rfl⟩ := List.getElem?_eq_some_iff.mp hp
  refine ⟨{q}, ps[i], fun p hp => Multiset.mem_singleton.mp hp ▸ hturns, ?_⟩
  -- one phase is exchanged for another one
  have hset : (ps.set i q : Multiset (Phase α)) = q ::ₘ (ps.eraseIdx i : Multiset (Phase α)) :=
    Multiset.coe_eq_coe.mpr (List.set_perm_cons_eraseIdx hi q)
  have hget : ps[i] ::ₘ (ps.eraseIdx i : Multiset (Phase α)) = (ps : Multiset (Phase α)) :=
    Multiset.coe_eq_coe.mpr (List.getElem_cons_eraseIdx_perm hi)
  dsimp only
  rw [← hget, hset, Multiset.cons_add, Multiset.cons_add, add_comm, Multiset.singleton_add,
    add_comm, Multiset.singleton_add]
  exact Multiset.cons_swap _ _ _

end Phase

namespace Job

variable {α : Type}

/-- An operation that waits, and whose time has not come. -/
def IsSuspended (time : Nat) (j : Job α) : Prop :=
  ∃ wake next, j.phase = .waiting wake next ∧ time < wake

instance (time : Nat) (j : Job α) : Decidable (j.IsSuspended time) :=
  match h : j.phase with
  | .waiting wake next => decidable_of_iff (time < wake)
      ⟨fun hlt => ⟨wake, next, h, hlt⟩,
        fun ⟨_, _, h', hlt⟩ => (Phase.waiting.inj (h.symm.trans h')).1 ▸ hlt⟩
  | .due _ | .ended _ | .collected => isFalse fun ⟨_, _, h', _⟩ => nomatch h.symm.trans h'

/-- The operation that is cancelled at a time, if it has not been before. -/
def cancelledBy (time : Nat) (j : Job α) : Job α :=
  { j with cancelAt := some (World.earlier time j.cancelAt) }

theorem cancelledBy_le (time : Nat) (j : Job α) : World.earlier time j.cancelAt ≤ time := by
  cases j.cancelAt with
  | none => exact Nat.le_refl _
  | some c => exact Nat.min_le_left _ _

end Job

namespace Session

variable {α : Type}

/-- **What may happen in the background** of a session. -/
inductive Moves : Session α → Session α → Prop
  | advance (s : Session α) (i : Nat) : Moves s (s.advance i)
  | pass (s : Session α) {time : Nat} (h : s.world.time ≤ time) : Moves s (s.atTime time)
  | cancel (s : Session α) (i : Nat) : Moves s (s.cancel i)

/-- **The background goes on** by some moves. -/
abbrev GoesOn : Session α → Session α → Prop := Relation.ReflTransGen Moves

theorem goesOn_advance (s : Session α) (is : List Nat) : s.GoesOn (is.foldl advance s) := by
  induction is generalizing s with
  | nil => exact .refl
  | cons i rest ih => exact .head (.advance s i) (ih _)

theorem goesOn_cancel (s : Session α) (is : List Nat) : s.GoesOn (is.foldl cancel s) := by
  induction is generalizing s with
  | nil => exact .refl
  | cons i rest ih => exact .head (.cancel s i) (ih _)

theorem goesOn_drain (s : Session α) : s.GoesOn s.drain := goesOn_advance s _

/-- The session after an operation has gone on that works on a store. -/
def wentOn (i : Nat) (j : Job α) (p : Stop α × Session α) : Session α :=
  { p.2 with
    jobs := p.2.jobs.set i { j with turn := p.2.turns, phase := phaseAt p.2.world.time p.1 }
    turns := p.2.turns + 1 }

/-- **One operation goes on until it stops**, or there is none at this place that can go on. -/
theorem advance_cases (s : Session α) (i : Nat) :
    ((∀ j, s.jobs[i]? = some j → j.rest? = none) ∧ s.advance i = s) ∨
      ∃ j rest, s.jobs[i]? = some j ∧ j.rest? = some rest ∧
        s.advance i = wentOn i j (s.within j.era (World.runToWait j.cancelAt rest)) := by
  unfold advance
  cases hj : s.jobs[i]? with
  | none => exact .inl ⟨nofun, rfl⟩
  | some j =>
    cases hrest : j.rest? with
    | none => exact .inl ⟨fun j' hj' => Option.some.inj hj' ▸ hrest, by simp only [hrest]⟩
    | some rest => exact .inr ⟨j, rest, rfl, hrest, by simp only [hrest]; rfl⟩

/-- To work with the store of an era is to work in a world of this time, and nothing to the
operations. -/
theorem exists_within (s : Session α) (era : Nat) {β : Type} (f : World → β × World) :
    ∃ w, w.time = s.world.time ∧ (s.within era f).1 = (f w).1 ∧
      (s.within era f).2.world.time = (f w).2.time ∧ (s.within era f).2.jobs = s.jobs := by
  unfold within
  split
  · exact ⟨s.world, rfl, rfl, rfl, rfl⟩
  · next old _ => exact ⟨{ s.world with store := old }, rfl, rfl, rfl, rfl⟩

theorem advance_time (s : Session α) (i : Nat) : (s.advance i).world.time = s.world.time := by
  rcases s.advance_cases i with ⟨-, hsame⟩ | ⟨j, rest, -, -, hnew⟩
  · rw [hsame]
  · obtain ⟨w, hw, -, htime, -⟩ := s.exists_within j.era (World.runToWait j.cancelAt rest)
    rw [hnew]
    exact htime.trans ((World.runToWait_time j.cancelAt rest w).trans hw)

theorem foldl_advance_time (s : Session α) (is : List Nat) :
    (is.foldl advance s).world.time = s.world.time := by
  induction is generalizing s with
  | nil => rfl
  | cons i rest ih => exact (ih _).trans (s.advance_time i)

theorem drain_time (s : Session α) : s.drain.world.time = s.world.time := s.foldl_advance_time _

/-- **To let time pass is to go on.** -/
theorem goesOn_passTo (time : Nat) (s : Session α) : s.GoesOn (s.passTo time) := by
  fun_induction passTo time s with
  | case1 s drained wake hwake hlt ih =>
    -- the next operation goes on before that time
    have hlater : drained.world.time ≤ wake := by
      rw [drain_time]
      exact Nat.le_of_lt hlt.1
    exact s.goesOn_drain.trans (.head (.pass drained hlater) ih)
  | case2 s drained _ _ _ | case3 s drained _ =>
    refine s.goesOn_drain.tail (.pass drained ?_)
    rw [drain_time]
    exact Nat.le_max_right _ _

/-! ### One operation among others -/

variable {s : Session α} {i k : Nat} {j : Job α}

theorem advance_jobs_ne (s : Session α) (hik : i ≠ k) : (s.advance k).jobs[i]? = s.jobs[i]? := by
  rcases s.advance_cases k with ⟨-, hsame⟩ | ⟨j, rest, -, -, hnew⟩
  · rw [hsame]
  · obtain ⟨w, -, -, -, hjobs⟩ := s.exists_within j.era (World.runToWait j.cancelAt rest)
    rw [hnew]
    show (List.set _ k _)[i]? = _
    rw [List.getElem?_set_ne (Ne.symm hik), hjobs]

/-- **An operation that has had its turn** stands where it has stopped, unless it could not go on. -/
theorem advance_self {j' : Job α} (hj' : (s.advance i).jobs[i]? = some j') :
    ∃ j, s.jobs[i]? = some j ∧ ((j.rest? = none ∧ j' = j) ∨
      ∃ rest turn w, j.rest? = some rest ∧ w.time = s.world.time ∧
        j' = { j with turn, phase := phaseAt w.time (World.runToWait j.cancelAt rest w).1 }) := by
  rcases s.advance_cases i with ⟨hnone, hsame⟩ | ⟨j, rest, hj, hrest, hnew⟩
  · rw [hsame] at hj'
    exact ⟨j', hj', .inl ⟨hnone j' hj', rfl⟩⟩
  · obtain ⟨w, hw, hstop, htime, hjobs⟩ := s.exists_within j.era (World.runToWait j.cancelAt rest)
    obtain ⟨hi, -⟩ := List.getElem?_eq_some_iff.mp hj
    simp only [hnew, wentOn, hstop, htime, hjobs, World.runToWait_time] at hj'
    exact ⟨j, hj, .inr ⟨rest, _, w, hrest, hw,
      Option.some.inj (hj'.symm.trans (List.getElem?_set_self hi))⟩⟩

/-- **What is so of an operation once something has been done with it** is so of all when it has been
done with some, one after the other, and was so of the others before. -/
theorem foldl_all {f : Session α → Nat → Session α} {P Q : Job α → Prop} {time : Nat}
    (hf : ∀ s i, s.world.time = time → (f s i).world.time = time ∧
      (∀ k, k ≠ i → (f s i).jobs[k]? = s.jobs[k]?) ∧
      ∀ j', (f s i).jobs[i]? = some j' → ∃ j, s.jobs[i]? = some j ∧ (P j ∨ Q j → P j'))
    (is : List Nat) (s : Session α) (htime : s.world.time = time)
    (h : ∀ i j, s.jobs[i]? = some j → P j ∨ (i ∈ is ∧ Q j)) : ∀ j ∈ (is.foldl f s).jobs, P j := by
  induction is generalizing s with
  | nil =>
    intro j hj
    obtain ⟨i, hi⟩ := List.mem_iff_getElem?.mp hj
    exact (h i j hi).resolve_right fun hmem => absurd hmem.1 List.not_mem_nil
  | cons k rest ih =>
    obtain ⟨htime', hothers, hself⟩ := hf s k htime
    refine ih (f s k) htime' fun i j hj => ?_
    by_cases hik : i = k
    · -- its turn has come just now
      subst hik
      obtain ⟨j₀, hj₀, hnow⟩ := hself j hj
      exact .inl (hnow ((h i j₀ hj₀).imp_right And.right))
    · -- it is as it was, and its turn has still to come if it had
      rw [hothers i hik] at hj
      exact (h i j hj).imp_right fun hmem => ⟨(List.mem_cons.mp hmem.1).resolve_left hik, hmem.2⟩

/-- **One operation is cancelled**, if there is one at this place: when it is suspended, it can go on at
once. -/
theorem cancel_cases (s : Session α) (i : Nat) :
    (s.jobs[i]? = none ∧ s.cancel i = s) ∨
      ∃ j, s.jobs[i]? = some j ∧
        ((∃ wake next, j.phase = .waiting wake next ∧ s.world.time < wake ∧
            s.cancel i = { s with
              jobs := s.jobs.set i { j.cancelledBy s.world.time with
                turn := s.turns, phase := .due (next .cancelled) }
              turns := s.turns + 1 }) ∨
          (¬ j.IsSuspended s.world.time ∧
            s.cancel i = { s with jobs := s.jobs.set i (j.cancelledBy s.world.time) })) := by
  unfold cancel
  cases hj : s.jobs[i]? with
  | none => exact .inl ⟨rfl, rfl⟩
  | some j =>
    refine .inr ⟨j, rfl, ?_⟩
    obtain ⟨turn, era, cancelAt, phase⟩ := j
    cases phase with
    | waiting wake next =>
      by_cases hlt : s.world.time < wake
      · exact .inl ⟨wake, next, rfl, hlt, if_pos hlt⟩
      · refine .inr ⟨?_, if_neg hlt⟩
        rintro ⟨_, _, hphase, hlt'⟩
        obtain ⟨rfl, -⟩ := Phase.waiting.inj hphase
        exact hlt hlt'
    | due rest | ended a | collected => exact .inr ⟨nofun, rfl⟩

theorem cancel_others (s : Session α) (k : Nat) :
    (s.cancel k).world = s.world ∧ ∀ i, i ≠ k → (s.cancel k).jobs[i]? = s.jobs[i]? := by
  rcases s.cancel_cases k with ⟨-, h⟩ | ⟨j, -, ⟨_, _, -, -, h⟩ | ⟨-, h⟩⟩ <;> rw [h]
  · exact ⟨rfl, fun _ _ => rfl⟩
  all_goals exact ⟨rfl, fun i hik => List.getElem?_set_ne (Ne.symm hik)⟩

/-! ### When everything is cancelled -/

/-- **An operation that does not wait any more**: it cannot go on, or it can and is cancelled. -/
def Hurried (time : Nat) (j : Job α) : Prop :=
  j.rest? = none ∨ (j.isDue time = true ∧ ∃ c, j.cancelAt = some c ∧ c ≤ time)

/-- **What is cancelled does not wait any more.** -/
theorem cancel_hurried {j' : Job α} (hj' : (s.cancel i).jobs[i]? = some j') :
    ∃ j, s.jobs[i]? = some j ∧ Hurried s.world.time j' := by
  rcases s.cancel_cases i with ⟨hnone, hsame⟩ | ⟨j, hj, hnew⟩
  · rw [hsame, hnone] at hj'
    exact nomatch hj'
  obtain ⟨hi, -⟩ := List.getElem?_eq_some_iff.mp hj
  refine ⟨j, hj, ?_⟩
  rcases hnew with ⟨wake, next, -, -, hnew⟩ | ⟨hgoes, hnew⟩
  · -- its wait is cut short
    rw [hnew] at hj'
    obtain rfl := Option.some.inj (hj'.symm.trans (List.getElem?_set_self hi))
    exact .inr ⟨rfl, _, rfl, j.cancelledBy_le _⟩
  · rw [hnew] at hj'
    obtain rfl := Option.some.inj (hj'.symm.trans (List.getElem?_set_self hi))
    cases hphase : j.phase with
    | due rest => exact .inr ⟨by rw [Job.isDue, Job.cancelledBy, hphase], _, rfl, j.cancelledBy_le _⟩
    | waiting wake next =>
      -- its wait is over by now, as it is not suspended
      refine .inr ⟨?_, _, rfl, j.cancelledBy_le _⟩
      have hwake : wake ≤ s.world.time := Nat.not_lt.mp fun hlt => hgoes ⟨wake, next, hphase, hlt⟩
      rw [Job.isDue, Job.cancelledBy, hphase]
      exact decide_eq_true (Nat.le_trans (Nat.min_le_left _ _) hwake)
    | ended a | collected => exact .inl (by rw [Job.rest?, Job.cancelledBy, hphase])

/-- **All that is cancelled, one after the other, does not wait any more.** -/
theorem foldl_cancel_hurried (is : List Nat) (s : Session α)
    (h : ∀ i j, s.jobs[i]? = some j → i ∈ is ∨ Hurried s.world.time j) :
    ∀ j ∈ (is.foldl cancel s).jobs, Hurried s.world.time j := by
  refine foldl_all (Q := fun _ => True) (fun s' i htime => ?_) is s rfl fun i j hj =>
    (h i j hj).symm.imp_right fun hmem => ⟨hmem, trivial⟩
  obtain ⟨hworld, hothers⟩ := s'.cancel_others i
  refine ⟨(congrArg World.time hworld).trans htime, hothers, fun j' hj' => ?_⟩
  obtain ⟨j, hj, hhurried⟩ := cancel_hurried hj'
  exact ⟨j, hj, fun _ => htime ▸ hhurried⟩

theorem foldl_cancel_world (is : List Nat) (s : Session α) : (is.foldl cancel s).world = s.world := by
  induction is generalizing s with
  | nil => rfl
  | cons i rest ih => exact (ih _).trans (s.cancel_others i).1

/-- **What is cancelled goes on to its end**, once it goes on. -/
theorem advance_hurried {j' : Job α} (hj' : (s.advance i).jobs[i]? = some j') :
    ∃ j, s.jobs[i]? = some j ∧ (Hurried s.world.time j → j'.rest? = none) := by
  obtain ⟨j, hj, ⟨hnone, rfl⟩ | ⟨rest, turn, w, hrest, hw, rfl⟩⟩ := advance_self hj'
  · exact ⟨_, hj, fun _ => hnone⟩
  refine ⟨j, hj, ?_⟩
  rintro (hnone | ⟨-, c, hc, hle⟩)
  · exact nomatch hnone.symm.trans hrest
  · -- it is cancelled, so it stops at its end only
    have hcancelled : w.isCancelledBy j.cancelAt = true := by
      rw [hc]
      exact decide_eq_true (hw ▸ hle)
    obtain ⟨a, w', hended⟩ := World.exists_runToWait_eq_ended rest hcancelled
    rw [hended]
    rfl

theorem mem_dueIndices :
    (i ∈ s.dueIndices fun _ => true) ↔ ∃ j, s.jobs[i]? = some j ∧ j.isDue s.world.time = true := by
  simp [dueIndices, List.mem_zipIdx_iff_getElem?]

/-- **What is so after a turn is so after a round**, of all that have a turn in it and of all that it
has been so of before. -/
theorem drain_all {P Q : Job α → Prop}
    (hturn : ∀ (s' : Session α) (i : Nat) (j' : Job α), s'.world.time = s.world.time →
      (s'.advance i).jobs[i]? = some j' → ∃ j, s'.jobs[i]? = some j ∧ (P j ∨ Q j → P j'))
    (h : ∀ j ∈ s.jobs, P j ∨ (j.isDue s.world.time = true ∧ Q j)) : ∀ j ∈ s.drain.jobs, P j := by
  refine foldl_all (fun s' i htime => ⟨(s'.advance_time i).trans htime,
    fun k hk => s'.advance_jobs_ne hk, fun j' => hturn s' i j' htime⟩) _ s rfl fun i j hj => ?_
  -- what is due has its turn in the round
  exact (h j (List.mem_of_getElem? hj)).imp_right fun hdue =>
    ⟨mem_dueIndices.mpr ⟨j, hj, hdue.1⟩, hdue.2⟩

/-- **When all is cancelled, it is quiet after one more round.** -/
theorem isQuiet_drain_of_hurried (h : ∀ j ∈ s.jobs, Hurried s.world.time j) : s.drain.IsQuiet := by
  refine drain_all (P := fun j => j.rest? = none) (Q := Hurried s.world.time) ?_ fun j hj => ?_
  · intro s' i j' htime hj'
    obtain ⟨j, hj, hover⟩ := advance_hurried hj'
    exact ⟨j, hj, fun hpq => hover (htime ▸ hpq.elim .inl id)⟩
  · exact (h j hj).imp_right fun hdue => ⟨hdue.1, .inr hdue⟩

/-! ### When enough time passes -/

/-- What has stopped has nothing more to do at the time at which it has. -/
theorem isDue_phaseAt (j : Job α) (turn : Nat) (rest : Operation α) (w : World) :
    Job.isDue w.time { j with turn, phase := phaseAt w.time (World.runToWait j.cancelAt rest w).1 }
      = false := by
  cases hstop : (World.runToWait j.cancelAt rest w).1 with
  | ended a => rfl
  | waits n next =>
    obtain ⟨hn, hc⟩ := World.runToWait_eq_waits hstop
    refine decide_eq_false (Nat.not_le.mpr ?_)
    cases hcancel : j.cancelAt with
    | none => exact Nat.lt_add_of_pos_right (Nat.pos_of_ne_zero hn)
    | some c =>
      rw [hcancel] at hc
      have hlater : w.time < c := Nat.not_le.mp (of_decide_eq_false hc)
      exact Nat.lt_min.mpr ⟨Nat.lt_add_of_pos_right (Nat.pos_of_ne_zero hn), hlater⟩

/-- **After a round nothing can go on** at this time. -/
theorem isDue_drain (hj : j ∈ s.drain.jobs) : j.isDue s.world.time = false := by
  refine drain_all (P := fun j => j.isDue s.world.time = false)
    (Q := fun j => j.isDue s.world.time = true) ?_ (fun j _ => ?_) j hj
  · intro s' i j' htime hj'
    obtain ⟨j, hj, ⟨hnone, rfl⟩ | ⟨rest, turn, w, -, hw, rfl⟩⟩ := advance_self hj'
    · exact ⟨_, hj, fun _ => Job.isDue_of_rest? hnone _⟩
    · refine ⟨j, hj, fun _ => ?_⟩
      rw [← htime, ← hw]
      exact isDue_phaseAt j turn rest w
  · cases hdue : j.isDue s.world.time with
    | false => exact .inl rfl
    | true => exact .inr ⟨rfl, rfl⟩

/-- The operation that goes on first waits until then. -/
theorem least?_mem {ns : List Nat} {n : Nat} (h : least? ns = some n) : n ∈ ns := by
  induction ns generalizing n with
  | nil => exact nomatch h
  | cons m rest ih =>
    obtain rfl := Option.some.inj h
    cases hrest : least? rest with
    | none => exact List.mem_cons_self ..
    | some k =>
      show min m k ∈ m :: rest
      rcases Nat.le_total m k with hle | hle
      · rw [Nat.min_eq_left hle]
        exact List.mem_cons_self ..
      · rw [Nat.min_eq_right hle]
        exact List.mem_cons_of_mem _ (ih hrest)

theorem least?_eq_none {ns : List Nat} (h : least? ns = none) : ns = [] := by
  cases ns with
  | nil => rfl
  | cons m rest => exact nomatch h

/-- **What is next** is an operation that waits until later, if nothing can go on now. -/
theorem exists_of_nextWake? {wake : Nat} (h : s.nextWake? = some wake)
    (hdue : ∀ j ∈ s.jobs, j.isDue s.world.time = false) :
    s.world.time < wake ∧ ∃ j ∈ s.jobs, j.isDue wake = true := by
  obtain ⟨j, hj, hwake⟩ := List.mem_filterMap.mp (least?_mem h)
  have hover := hdue j hj
  unfold Job.wake? at hwake
  unfold Job.isDue at hover
  split at hwake
  · next until' next hphase =>
    obtain rfl := Option.some.inj hwake
    rw [hphase] at hover
    refine ⟨Nat.not_le.mp (of_decide_eq_false hover), j, hj, ?_⟩
    unfold Job.isDue
    rw [hphase]
    exact decide_eq_true (Nat.le_refl _)
  · exact nomatch hwake

/-- **If nothing can go on and nothing is next**, the background is quiet. -/
theorem isQuiet_of_nextWake? (h : s.nextWake? = none)
    (hdue : ∀ j ∈ s.jobs, j.isDue s.world.time = false) : s.IsQuiet := by
  intro j hj
  have hwake := List.filterMap_eq_nil_iff.mp (least?_eq_none h) j hj
  have hover := hdue j hj
  unfold Job.rest?
  unfold Job.wake? at hwake
  unfold Job.isDue at hover
  cases hphase : j.phase with
  | due rest =>
    rw [hphase] at hover
    exact nomatch hover
  | waiting wake next =>
    rw [hphase] at hwake
    exact nomatch hwake
  | ended a => rfl
  | collected => rfl

/-- The phases of the background. -/
def phases (s : Session α) : List (Phase α) := s.jobs.map (·.phase)

/-- **One operation has its turn**, or there is none at this place that can go on. -/
theorem phases_advance (s : Session α) (i : Nat) :
    ((∀ j, s.jobs[i]? = some j → j.rest? = none) ∧ s.advance i = s) ∨
      Phase.Turned (s.advance i).phases s.phases := by
  refine (s.advance_cases i).imp_right ?_
  rintro ⟨j, rest, hj, hrest, hnew⟩
  obtain ⟨w, -, hstop, -, hjobs⟩ := s.exists_within j.era (World.runToWait j.cancelAt rest)
  let p : Phase α :=
    phaseAt (s.within j.era (World.runToWait j.cancelAt rest)).2.world.time
      (World.runToWait j.cancelAt rest w).1
  have hphase : s.phases[i]? = some j.phase := by rw [phases, List.getElem?_map, hj]; rfl
  refine ⟨i, j.phase, p, hphase, ⟨j, rest, rfl, hrest, _, w, rfl⟩, ?_⟩
  rw [hnew, phases, wentOn, hstop, hjobs, List.map_set]
  rfl

/-- Turns bring the operations on. -/
theorem phases_foldl_advance (is : List Nat) (s : Session α) :
    Relation.ReflTransGen Phase.Turned (is.foldl advance s).phases s.phases := by
  induction is generalizing s with
  | nil => exact .refl
  | cons i rest ih =>
    rcases s.phases_advance i with ⟨-, hsame⟩ | hturn
    · rw [List.foldl_cons, hsame]
      exact ih s
    · exact .tail (ih _) hturn

/-- **A round in which something can go on** brings the operations on. -/
theorem phases_drain (hj : j ∈ s.jobs) (hdue : j.isDue s.world.time = true) :
    Relation.TransGen Phase.Turned s.drain.phases s.phases := by
  obtain ⟨i, hi⟩ := List.mem_iff_getElem?.mp hj
  have hmem : i ∈ s.dueIndices fun _ => true := mem_dueIndices.mpr ⟨j, hi, hdue⟩
  unfold drain drainWhere
  generalize hdues : s.dueIndices (fun _ => true) = dues at hmem
  cases dues with
  | nil => exact absurd hmem List.not_mem_nil
  | cons k rest =>
    -- the first of them has its turn
    obtain ⟨j', hk, hdue'⟩ := mem_dueIndices.mp (hdues ▸ List.mem_cons_self (a := k))
    rcases s.phases_advance k with ⟨hnone, -⟩ | hturn
    · rw [Job.isDue_of_rest? (hnone j' hk)] at hdue'
      exact nomatch hdue'
    · exact .tail' (phases_foldl_advance rest _) hturn

/-- **When enough time passes, the background is quiet.** -/
theorem exists_isQuiet_passTo (s : Session α) :
    ∃ enough, ∀ time, enough ≤ time → (s.passTo time).IsQuiet := by
  -- by induction on what is left to do after a round
  generalize hleft : s.drain.phases = left
  induction left using Phase.turned_wf.transGen.induction generalizing s with
  | _ left ih =>
    have hover : ∀ j ∈ s.drain.jobs, j.isDue s.drain.world.time = false := fun j hj => by
      rw [drain_time]
      exact isDue_drain hj
    cases hnext : s.drain.nextWake? with
    | none =>
      have hquiet := isQuiet_of_nextWake? hnext hover
      refine ⟨0, fun time _ => ?_⟩
      unfold passTo
      simp only [hnext]
      exact hquiet
    | some wake =>
      obtain ⟨hlater, j, hj, hdue⟩ := exists_of_nextWake? hnext hover
      rw [drain_time] at hlater
      have hless := phases_drain (s := s.drain.atTime wake) hj hdue
      obtain ⟨enough, henough⟩ := ih _ (hleft ▸ hless) (s.drain.atTime wake) rfl
      refine ⟨max enough (wake + 1), fun time htime => ?_⟩
      obtain ⟨htime, hwake⟩ := Nat.max_le.mp htime
      rw [passTo]
      simp only [hnext]
      rw [if_pos ⟨hlater, hwake⟩]
      exact henough time htime

end Session

end Flowgraph
