import Flowgraph.Session.World
import Flowgraph.Proofs.Operation.Transcript

/-!
# Operations alone

`World.runAlone` answers an operation with nothing else going on.  `World.transcript` is the
transcript of such a run.  The value of the run is the one in which the operation completes after
that transcript (`World.completes_transcript`), and events and store are what the transcript says.

An operation that is cancelled at some time differs from the one that is not by nothing, if it is
over before (`World.runAlone_eq_run`).  If it is not over, and no wait ends at this very time, then
one of its waits is cut short (`World.not_calm_transcript`).
-/

namespace Flowgraph

namespace World

variable {α : Type}

/-! ### One answer -/

@[simp] theorem answer_time (w : World) (cancelled : Bool) (q : Request) :
    (w.answer cancelled q).2.time = w.time := by
  cases q <;> rfl

theorem answer_unread (w : World) (cancelled : Bool) (q : Request) :
    (w.answer cancelled q).2.unread
      = (Transcript.event? ⟨q, (w.answer cancelled q).1⟩).toList ++ w.unread := by
  cases q <;> rfl

/-- A request that changes no flow changes the store by the record that it adds, if it does. -/
theorem answer_store (w : World) (cancelled : Bool) {q : Request} (hq : ¬ q.ChangesFlows) :
    (w.answer cancelled q).2.store
      = (Transcript.record? ⟨q, (w.answer cancelled q).1⟩).toList.foldl
          (fun s r => (s.append r).2) w.store := by
  cases q <;> first | rfl | exact absurd trivial hq

/-! ### The transcript of an operation alone -/

/-- **The transcript of an operation** with nothing else going on. -/
def transcript (cancelAt : Option Nat) : Operation α → World → Transcript
  | .done _, _ => []
  | .ask (.wait n) next, w =>
    if w.isCancelledBy cancelAt then ⟨.wait n, .cancelled⟩ :: transcript cancelAt (next .cancelled) w
    else
      let wake := earlier (w.time + n) cancelAt
      let ended := waited wake (w.time + n)
      ⟨.wait n, ended⟩ :: transcript cancelAt (next ended) { w with time := wake }
  | .ask q next, w =>
    let (a, w') := w.answer (w.isCancelledBy cancelAt) q
    ⟨q, a⟩ :: transcript cancelAt (next a) w'

/-- The times at which the waits of an operation end that is not cancelled. -/
def wakes : Operation α → World → List Nat
  | .done _, _ => []
  | .ask (.wait n) next, w => (w.time + n) :: wakes (next .elapsed) { w with time := w.time + n }
  | .ask q next, w =>
    let (a, w') := w.answer false q
    wakes (next a) w'

section Ask

variable {q : Request} {next : q.Answer → Operation α} {cancelAt : Option Nat} {w : World}

theorem runAlone_ask (hq : ∀ n, q ≠ .wait n) :
    runAlone cancelAt (.ask q next) w
      = runAlone cancelAt (next (w.answer (w.isCancelledBy cancelAt) q).1)
          (w.answer (w.isCancelledBy cancelAt) q).2 := by
  cases q <;> first | rfl | exact absurd rfl (hq _)

theorem transcript_ask (hq : ∀ n, q ≠ .wait n) :
    transcript cancelAt (.ask q next) w
      = ⟨q, (w.answer (w.isCancelledBy cancelAt) q).1⟩
          :: transcript cancelAt (next (w.answer (w.isCancelledBy cancelAt) q).1)
            (w.answer (w.isCancelledBy cancelAt) q).2 := by
  cases q <;> first | rfl | exact absurd rfl (hq _)

theorem wakes_ask (hq : ∀ n, q ≠ .wait n) :
    wakes (.ask q next) w = wakes (next (w.answer false q).1) (w.answer false q).2 := by
  cases q <;> first | rfl | exact absurd rfl (hq _)

theorem run_ask (hq : ∀ n, q ≠ .wait n) :
    run (.ask q next) w = run (next (w.answer false q).1) (w.answer false q).2 :=
  runAlone_ask hq

end Ask

section Wait

variable {n c : Nat} {next : Waited → Operation α} {cancelAt : Option Nat} {w : World}

theorem runAlone_ask_wait :
    runAlone cancelAt (.ask (.wait n) next) w
      = if w.isCancelledBy cancelAt then runAlone cancelAt (next .cancelled) w
        else runAlone cancelAt (next (waited (earlier (w.time + n) cancelAt) (w.time + n)))
          { w with time := earlier (w.time + n) cancelAt } :=
  rfl

theorem transcript_ask_wait :
    transcript cancelAt (.ask (.wait n) next) w
      = if w.isCancelledBy cancelAt then
          ⟨.wait n, .cancelled⟩ :: transcript cancelAt (next .cancelled) w
        else ⟨.wait n, waited (earlier (w.time + n) cancelAt) (w.time + n)⟩
          :: transcript cancelAt (next (waited (earlier (w.time + n) cancelAt) (w.time + n)))
            { w with time := earlier (w.time + n) cancelAt } :=
  rfl

theorem run_wait :
    run (.ask (.wait n) next) w = run (next .elapsed) { w with time := w.time + n } := by
  simp [run, runAlone_ask_wait, isCancelledBy, earlier, waited]

/-- A wait that is over before the cancellation. -/
theorem runAlone_wait (hc : w.time + n < c) :
    runAlone (some c) (.ask (.wait n) next) w
      = runAlone (some c) (next .elapsed) { w with time := w.time + n } := by
  have hnow : w.isCancelledBy (some c) = false := by
    rw [isCancelledBy, decide_eq_false_iff_not]
    omega
  simp [runAlone_ask_wait, hnow, earlier, waited, Nat.min_eq_left (Nat.le_of_lt hc)]

theorem transcript_wait (hc : w.time + n < c) :
    transcript (some c) (.ask (.wait n) next) w
      = ⟨.wait n, .elapsed⟩ :: transcript (some c) (next .elapsed) { w with time := w.time + n } := by
  have hnow : w.isCancelledBy (some c) = false := by
    rw [isCancelledBy, decide_eq_false_iff_not]
    omega
  simp [transcript_ask_wait, hnow, earlier, waited, Nat.min_eq_left (Nat.le_of_lt hc)]

/-- A wait that is cut short. -/
theorem transcript_wait_cut (hw : w.time < c) (hc : c < w.time + n) :
    transcript (some c) (.ask (.wait n) next) w
      = ⟨.wait n, .cancelled⟩ :: transcript (some c) (next .cancelled) { w with time := c } := by
  have hnow : w.isCancelledBy (some c) = false := by
    rw [isCancelledBy, decide_eq_false_iff_not]
    omega
  simp [transcript_ask_wait, hnow, earlier, waited, Nat.min_eq_right (Nat.le_of_lt hc), hc]

end Wait

/-- **One operation after another**, alone: the second one goes on in the world that the first one
leaves. -/
theorem runAlone_bind {β : Type} (cancelAt : Option Nat) (o : Operation α) (f : α → Operation β)
    (w : World) :
    runAlone cancelAt (Interaction.bind o f) w
      = runAlone cancelAt (f (runAlone cancelAt o w).1) (runAlone cancelAt o w).2 := by
  induction o generalizing w with
  | done a => rfl
  | ask q next ih =>
    rcases q.wait_cases with ⟨n, rfl⟩ | hq
    · by_cases hc : w.isCancelledBy cancelAt = true
      · simp only [Interaction.bind, runAlone_ask_wait, hc, if_true]
        exact ih _ _
      · simp only [Interaction.bind, runAlone_ask_wait, hc]
        exact ih _ _
    · rw [Interaction.bind, runAlone_ask hq, runAlone_ask hq]
      exact ih _ _

/-- **The value of an operation alone** is the one in which it completes after its transcript. -/
theorem completes_transcript (cancelAt : Option Nat) (o : Operation α) (w : World) :
    o.Completes (transcript cancelAt o w) (runAlone cancelAt o w).1 := by
  induction o generalizing w with
  | done a => exact .nil _
  | ask q next ih =>
    rcases q.wait_cases with ⟨n, rfl⟩ | hq
    · by_cases hc : w.isCancelledBy cancelAt = true
      · simp only [transcript_ask_wait, runAlone_ask_wait, hc, if_true]
        exact .cons (ih _ _)
      · simp only [transcript_ask_wait, runAlone_ask_wait, hc]
        exact .cons (ih _ _)
    · rw [transcript_ask hq, runAlone_ask hq]
      exact .cons (ih _ _)

/-- **The events of an operation alone** are those of its transcript, behind those before. -/
theorem runAlone_unread (cancelAt : Option Nat) (o : Operation α) (w : World) :
    (runAlone cancelAt o w).2.unread
      = (Transcript.published (transcript cancelAt o w)).reverse ++ w.unread := by
  induction o generalizing w with
  | done a => rfl
  | ask q next ih =>
    rcases q.wait_cases with ⟨n, rfl⟩ | hq
    · by_cases hc : w.isCancelledBy cancelAt = true
      · simp only [transcript_ask_wait, runAlone_ask_wait, hc, if_true, ih]
        rfl
      · simp only [transcript_ask_wait, runAlone_ask_wait, hc]
        exact ih _ _
    · rw [transcript_ask hq, runAlone_ask hq, ih, answer_unread, Transcript.published_cons]
      cases Transcript.event? ⟨q, _⟩ <;> simp

/-- **The store after an operation alone** that changes no flow is the store before with the records
of its transcript. -/
theorem runAlone_store (cancelAt : Option Nat) (o : Operation α) (w : World)
    (ho : ∀ e ∈ transcript cancelAt o w, ¬ e.1.ChangesFlows) :
    (runAlone cancelAt o w).2.store
      = (Transcript.appended (transcript cancelAt o w)).foldl (fun s r => (s.append r).2)
          w.store := by
  induction o generalizing w with
  | done a => rfl
  | ask q next ih =>
    rcases q.wait_cases with ⟨n, rfl⟩ | hq
    · by_cases hc : w.isCancelledBy cancelAt = true
      · simp only [transcript_ask_wait, runAlone_ask_wait, hc, if_true] at ho ⊢
        exact ih _ _ fun e he => ho e (List.mem_cons_of_mem _ he)
      · simp only [transcript_ask_wait, runAlone_ask_wait, hc] at ho ⊢
        exact ih _ _ fun e he => ho e (List.mem_cons_of_mem _ he)
    · rw [transcript_ask hq] at ho ⊢
      rw [runAlone_ask hq, ih _ _ fun e he => ho e (List.mem_cons_of_mem _ he),
        answer_store _ _ (ho _ (List.mem_cons_self ..)), Transcript.appended_cons,
        List.foldl_append]

/-! ### With and without a cancellation -/

/-- Nobody finds a cancellation where there is none. -/
theorem calm_transcript (o : Operation α) (w : World) :
    Transcript.Calm (transcript none o w) := by
  induction o generalizing w with
  | done a => exact Transcript.calm_nil
  | ask q next ih =>
    rcases q.wait_cases with ⟨n, rfl⟩ | hq
    · refine Transcript.calm_cons.mpr ⟨?_, ih _ _⟩
      simp [Transcript.look?, waited, earlier]
    · rw [transcript_ask hq]
      refine Transcript.calm_cons.mpr ⟨?_, ih _ _⟩
      cases q <;> simp [Transcript.look?, answer, isCancelledBy]

/-- Where an operation is cancelled from the beginning, every look finds it out. -/
theorem looks_transcript_of_le {c : Nat} (o : Operation α) (w : World) (hc : c ≤ w.time) :
    ∀ found ∈ Transcript.looks (transcript (some c) o w), found = true := by
  induction o generalizing w with
  | done a => exact fun _ h => absurd h List.not_mem_nil
  | ask q next ih =>
    have hnow : w.isCancelledBy (some c) = true := by simp [isCancelledBy, hc]
    intro found hfound
    -- a wait is a look as well: it is cut short at once
    rcases q.wait_cases with ⟨n, rfl⟩ | hq
    · simp only [transcript_ask_wait, hnow, if_true, Transcript.looks_cons, List.mem_append] at hfound
      rcases hfound with hfound | hfound
      · simpa [Transcript.look?] using hfound
      · exact ih _ _ hc found hfound
    · rw [transcript_ask hq, Transcript.looks_cons, List.mem_append, hnow] at hfound
      rcases hfound with hfound | hfound
      · cases q <;> simp_all [Transcript.look?, answer]
      · exact ih _ _ (by rwa [answer_time]) found hfound

theorem le_run_time (o : Operation α) (w : World) : w.time ≤ (run o w).2.time := by
  induction o generalizing w with
  | done a => exact Nat.le_refl _
  | ask q next ih =>
    rcases q.wait_cases with ⟨n, rfl⟩ | hq
    · rw [run_wait]
      exact Nat.le_trans (Nat.le_add_right _ n) (ih _ { w with time := w.time + n })
    · rw [run_ask hq]
      exact Nat.le_trans (Nat.le_of_eq (answer_time ..).symm) (ih _ _)

section Cut

variable {o : Operation α} {w : World} {c : Nat}

/-- **A cancellation that comes after the end changes nothing.** -/
theorem runAlone_eq_run (hc : w.time < c) (hw : c ∉ wakes o w) (he : (run o w).2.time ≤ c) :
    runAlone (some c) o w = run o w := by
  -- by induction on the operation: up to its end the time stays before the cancellation
  induction o generalizing w with
  | done a => rfl
  | ask q next ih =>
    have hnow : w.isCancelledBy (some c) = false := by simp [isCancelledBy, hc]
    rcases q.wait_cases with ⟨n, rfl⟩ | hq
    · rw [run_wait] at he ⊢
      -- the wait is over before the operation is, so not after the cancellation, nor with it
      have hwake : w.time + n ≠ c := fun h => hw (h ▸ List.mem_cons_self ..)
      have hlt : w.time + n < c :=
        Nat.lt_of_le_of_ne
          (Nat.le_trans (le_run_time (next .elapsed) { w with time := w.time + n }) he) hwake
      rw [runAlone_wait hlt]
      exact ih _ hlt (fun h => hw (List.mem_cons_of_mem _ h)) he
    · rw [run_ask hq] at he ⊢
      rw [wakes_ask hq] at hw
      rw [runAlone_ask hq, hnow]
      exact ih _ (by rwa [answer_time]) hw he

/-- **A cancellation that comes before the end is found**, if no wait ends at its time. -/
theorem not_calm_transcript (hc : w.time < c) (hw : c ∉ wakes o w) (he : c < (run o w).2.time) :
    ¬ Transcript.Calm (transcript (some c) o w) := by
  induction o generalizing w with
  | done a => exact absurd he (Nat.not_lt.mpr (Nat.le_of_lt hc))
  | ask q next ih =>
    have hnow : w.isCancelledBy (some c) = false := by simp [isCancelledBy, hc]
    rcases q.wait_cases with ⟨n, rfl⟩ | hq
    · have hwake : w.time + n ≠ c := fun h => hw (h ▸ List.mem_cons_self ..)
      rcases Nat.lt_or_gt_of_ne hwake with hlt | hgt
      · -- the wait is over before the cancellation
        rw [run_wait] at he
        rw [transcript_wait hlt, Transcript.calm_cons]
        exact fun h => ih _ hlt (fun h => hw (List.mem_cons_of_mem _ h)) he h.2
      · -- the cancellation comes while the operation waits
        rw [transcript_wait_cut hc hgt, Transcript.calm_cons]
        exact fun h => h.1 rfl
    · rw [run_ask hq] at he
      rw [wakes_ask hq] at hw
      rw [transcript_ask hq, hnow, Transcript.calm_cons]
      exact fun h => ih _ (by rwa [answer_time]) hw he h.2

end Cut

end World

end Flowgraph
