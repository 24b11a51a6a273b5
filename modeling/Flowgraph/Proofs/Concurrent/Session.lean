import Flowgraph.Proofs.Concurrent.System
import Flowgraph.Proofs.Session.Alone
import Flowgraph.Session.Basic

/-!
# The turns of a session

A session lets one operation at a time go on until it waits or is done.  Such a turn is a number of
steps of a system in which the operation is one of the calls
(`System.exists_reaches_runToWait`), so whatever holds of all interleavings of single requests holds
of the turns of a session.
-/

namespace Flowgraph

/-- What is left of an operation that has stopped. -/
def Stop.rest {α : Type} : Stop α → Operation α
  | ended a => .done a
  | waits n next => .ask (.wait n) next

/-- The stop of an operation whose value is given as another one. -/
def Stop.map {α β : Type} (f : α → β) : Stop α → Stop β
  | ended a => .ended (f a)
  | waits n next => .waits n fun ended => Interaction.bind (next ended) fun a => .done (f a)

namespace World

variable {α : Type} {cancelAt : Option Nat} {w : World}

theorem isCancelledBy_answer (cancelled : Bool) (q : Request) :
    (w.answer cancelled q).2.isCancelledBy cancelAt = w.isCancelledBy cancelAt := by
  cases cancelAt with
  | none => rfl
  | some c => rw [isCancelledBy, isCancelledBy, answer_time]

theorem runToWait_ask {q : Request} {next : q.Answer → Operation α} (hq : ∀ n, q ≠ .wait n) :
    runToWait cancelAt (.ask q next) w
      = runToWait cancelAt (next (w.answer (w.isCancelledBy cancelAt) q).1)
          (w.answer (w.isCancelledBy cancelAt) q).2 := by
  cases q <;> first | rfl | exact absurd rfl (hq _)

/-- A wait goes on at once, or the operation stops at it. -/
theorem runToWait_wait (cancelAt : Option Nat) (n : Nat) (next : Waited → Operation α) (w : World) :
    runToWait cancelAt (.ask (.wait n) next) w
        = runToWait cancelAt (next (w.answer (w.isCancelledBy cancelAt) (.wait n)).1) w ∨
      runToWait cancelAt (.ask (.wait n) next) w = (.waits n next, w) := by
  unfold answer
  cases hc : w.isCancelledBy cancelAt with
  -- what is cancelled is not held up by a wait
  | true => exact .inl (by simp [runToWait, hc])
  | false =>
    by_cases hn : n = 0
    · exact .inl (by simp [runToWait, hc, hn])
    · exact .inr (by simp [runToWait, hc, hn])

/-- No time passes while an operation goes on. -/
theorem runToWait_time (cancelAt : Option Nat) (o : Operation α) (w : World) :
    (runToWait cancelAt o w).2.time = w.time := by
  induction o generalizing w with
  | done a => rfl
  | ask q next ih =>
    have hgo := ih (w.answer (w.isCancelledBy cancelAt) q).1
      (w.answer (w.isCancelledBy cancelAt) q).2
    rw [answer_time] at hgo
    rcases q.wait_cases with ⟨n, rfl⟩ | hq
    · rcases runToWait_wait cancelAt n next w with hwait | hstop
      · rw [hwait]
        exact hgo
      · rw [hstop]
    · rw [runToWait_ask hq]
      exact hgo

/-- An operation whose value is given as another one stops where it stops. -/
theorem runToWait_map {β : Type} (f : α → β) (cancelAt : Option Nat) (o : Operation α) (w : World) :
    runToWait cancelAt (Interaction.bind o fun a => .done (f a)) w
      = ((runToWait cancelAt o w).1.map f, (runToWait cancelAt o w).2) := by
  induction o generalizing w with
  | done a => rfl
  | ask q next ih =>
    rcases q.wait_cases with ⟨n, rfl⟩ | hq
    · -- both stop at this wait, or neither does
      unfold Interaction.bind runToWait
      split
      · exact ih _ w
      · split
        · exact ih _ w
        · rfl
    · rw [Interaction.bind, runToWait_ask hq, runToWait_ask hq]
      exact ih _ _

/-- **What is cancelled does not wait**: it goes on until it is done. -/
theorem exists_runToWait_eq_ended (o : Operation α) (hw : w.isCancelledBy cancelAt = true) :
    ∃ a w', runToWait cancelAt o w = (.ended a, w') := by
  -- request by request: the world stays one in which the operation is cancelled
  induction o generalizing w with
  | done a => exact ⟨a, w, rfl⟩
  | ask q next ih =>
    rcases q.wait_cases with ⟨n, rfl⟩ | hq
    · obtain ⟨a, w', h⟩ := ih .cancelled hw
      refine ⟨a, w', ?_⟩
      rw [runToWait, if_pos hw, h]
    · rw [runToWait_ask hq]
      exact ih _ ((isCancelledBy_answer _ q).trans hw)

/-- **An operation stops at a wait** only if the wait takes time and the operation is not cancelled. -/
theorem runToWait_eq_waits {o : Operation α} {n : Nat} {next : Waited → Operation α}
    (h : (runToWait cancelAt o w).1 = .waits n next) : n ≠ 0 ∧ w.isCancelledBy cancelAt = false := by
  induction o generalizing w with
  | done a => exact nomatch h
  | ask q next' ih =>
    rcases q.wait_cases with ⟨m, rfl⟩ | hq
    · unfold runToWait at h
      split at h
      · exact ih _ h
      · next hc =>
        split at h
        · exact ih _ h
        · next hm =>
          -- this is the wait that it stops at
          obtain ⟨rfl, -⟩ := Stop.waits.inj h
          exact ⟨hm, Bool.eq_false_iff.mpr hc⟩
    · rw [runToWait_ask hq] at h
      obtain ⟨hn, hc⟩ := ih _ h
      exact ⟨hn, (isCancelledBy_answer _ q).symm.trans hc⟩

end World

namespace System

variable {rules : Rules} {s : System} {i : Nat} {t : Task}

theorem eq_set_self (ht : s.tasks[i]? = some t) : s = ⟨s.world, s.tasks.set i t⟩ := by
  obtain ⟨hi, rfl⟩ := List.getElem?_eq_some_iff.mp ht
  rw [List.set_getElem_self]

/-- **A turn of a session is part of an interleaving.**  An operation that goes on until it waits or
is done has its requests answered one after the other. -/
theorem exists_reaches_runToWait (ht : s.tasks[i]? = some t) {cancelAt : Option Nat}
    (hc : t.isCancelled = s.world.isCancelledBy cancelAt) :
    ∃ t' : Task, t'.rest = (World.runToWait cancelAt t.rest s.world).1.rest ∧ t'.call = t.call ∧
      t'.isCancelled = t.isCancelled ∧
      Reaches rules s ⟨(World.runToWait cancelAt t.rest s.world).2, s.tasks.set i t'⟩ := by
  generalize hrest : t.rest = rest
  induction rest generalizing s t with
  | done a => exact ⟨t, hrest, rfl, rfl, eq_set_self ht ▸ .refl⟩
  | ask q next ih =>
    -- once the request is answered, the call stands where the rest of the turn begins
    have hgo : World.runToWait cancelAt (.ask q next) s.world
          = World.runToWait cancelAt (next (s.world.answer t.isCancelled q).1)
            (s.world.answer t.isCancelled q).2 →
        ∃ t' : Task, t'.rest = (World.runToWait cancelAt (.ask q next) s.world).1.rest ∧
          t'.call = t.call ∧ t'.isCancelled = t.isCancelled ∧
          Reaches rules s
            ⟨(World.runToWait cancelAt (.ask q next) s.world).2, s.tasks.set i t'⟩ := by
      intro heq
      obtain ⟨hi, -⟩ := List.getElem?_eq_some_iff.mp ht
      let t₁ := t.answered q (s.world.answer t.isCancelled q).1 next
      have hstep : Step rules s ⟨(s.world.answer t.isCancelled q).2, s.tasks.set i t₁⟩ :=
        .exchange ht hrest (.answered q)
      have hc₁ : t₁.isCancelled = (s.world.answer t.isCancelled q).2.isCancelledBy cancelAt := by
        rw [World.isCancelledBy_answer]
        exact hc
      obtain ⟨t', hrest', hcall, hcancelled, hreach⟩ :=
        ih _ (s := ⟨(s.world.answer t.isCancelled q).2, _⟩) (List.getElem?_set_self hi) hc₁ rfl
      -- two changes of one task, of which the later one counts
      rw [List.set_set] at hreach
      rw [heq]
      exact ⟨t', hrest', hcall, hcancelled, .head hstep hreach⟩
    rcases q.wait_cases with ⟨n, rfl⟩ | hq
    · rcases World.runToWait_wait cancelAt n next s.world with hwait | hstop
      · exact hgo (hc ▸ hwait)
      · -- the turn ends here, before the wait is answered
        rw [hstop]
        exact ⟨t, hrest, rfl, rfl, eq_set_self ht ▸ .refl⟩
    · exact hgo (hc ▸ World.runToWait_ask hq)

end System

end Flowgraph
