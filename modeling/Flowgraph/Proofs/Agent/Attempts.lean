import Mathlib.Data.Nat.Find
import Mathlib.Order.Bounds.Basic
import Flowgraph.Agent.Retry

/-!
# Where a loop of attempts ends

Whether a loop of attempts ends with a call is told by the outcome of the call and its number
(`Attempts.Settles`): it has succeeded, or it has failed for good, or there are no retries left.  The
loop always ends, and it does so with the first call that settles it.  Up to there it makes every call
once, in order, and between two calls it waits once, as long as the policy says for the call before
(`Attempts.run_stops`).
-/

namespace Flowgraph.Attempts

variable {α : Type} {p : RetryPolicy} {outcome : Nat → Except Fault α}

/-- **A call settles a loop of attempts**: it has succeeded, it has failed for good, or it is the last
one that may be made. -/
def Settles (p : RetryPolicy) (outcome : Nat → Except Fault α) (n : Nat) : Prop :=
  (∃ a, outcome n = .ok a) ∨ (∃ e, outcome n = .error e ∧ e.isTransient = false) ∨ n = p.maxRetries

/-- What is done from a call to the next one: a wait, and the call. -/
def onward (p : RetryPolicy) (n : Nat) : List Move := [.sleep (p.wait n), .call (n + 1)]

/-- A call that settles nothing has failed for a passing cause, and there are retries left. -/
theorem exists_transient_of_not_settles {n : Nat} (h : ¬ Settles p outcome n) :
    (∃ e, outcome n = .error e ∧ e.isTransient = true) ∧ n ≠ p.maxRetries := by
  unfold Settles at h
  push Not at h
  obtain ⟨hok, hlasting, hlast⟩ := h
  cases houtcome : outcome n with
  | ok a => exact absurd houtcome (hok a)
  | error e => exact ⟨⟨e, rfl, by simpa using hlasting e houtcome⟩, hlast⟩

/-- **The attempts from a given one on** go as far as the first call that settles them. -/
theorem startingAt_eq {attempt left k : Nat} (hleft : attempt + left = p.maxRetries)
    (hle : attempt ≤ k) (hk : Settles p outcome k)
    (hfirst : ∀ n, attempt ≤ n → n < k → ¬ Settles p outcome n) :
    startingAt p outcome attempt left
      = ⟨outcome k, .call attempt :: (List.range' attempt (k - attempt)).flatMap (onward p)⟩ := by
  induction left generalizing attempt with
  | zero =>
    -- the call is the last one that may be made, so it settles the loop
    obtain rfl : attempt = k := by
      refine Nat.le_antisymm hle (Nat.not_lt.mp fun hlt => ?_)
      exact hfirst attempt (Nat.le_refl _) hlt (.inr (.inr hleft))
    rw [Nat.sub_self]
    rfl
  | succ left ih =>
    rcases Nat.eq_or_lt_of_le hle with rfl | hlt
    · -- the first call is the one that settles the loop
      rw [Nat.sub_self, startingAt]
      rcases hk with ⟨a, ha⟩ | ⟨e, he, hlasting⟩ | hlast
      · rw [ha]
        rfl
      · rw [he]
        simp [hlasting]
      · omega
    · -- the first call passes, and the loop waits and goes on from the next one
      obtain ⟨⟨e, he, htransient⟩, -⟩ :=
        exists_transient_of_not_settles (hfirst attempt (Nat.le_refl _) hlt)
      have hrest : startingAt p outcome (attempt + 1) left = _ :=
        ih (by omega) hlt fun n hn => hfirst n (by omega)
      obtain ⟨d, hd⟩ : ∃ d, k - attempt = d + 1 := ⟨k - attempt - 1, by omega⟩
      have hd' : k - (attempt + 1) = d := by omega
      rw [startingAt, he]
      simp only [htransient, if_true, hrest, hd, hd', List.range'_succ, List.flatMap_cons]
      rfl

/-- **A loop goes as far as the first call that settles it.** -/
theorem run_of_isLeast {k : Nat} (hk : IsLeast {n | Settles p outcome n} k) :
    run p outcome = ⟨outcome k, .call 0 :: (List.range k).flatMap (onward p)⟩ := by
  rw [List.range_eq_range', run, startingAt_eq (Nat.zero_add _) (Nat.zero_le k) hk.1]
  · rfl
  · exact fun n _ hlt hn => Nat.not_lt.mpr (hk.2 hn) hlt

/-- The calls of a loop that goes on to the call `k`. -/
theorem attempts_onward (k : Nat) :
    (Move.call 0 :: (List.range k).flatMap (onward p)).filterMap Move.attempt?
      = List.range (k + 1) := by
  induction k with
  | zero => rfl
  | succ k ih =>
    rw [List.range_succ, List.flatMap_append, ← List.cons_append, List.filterMap_append, ih,
      List.range_succ (n := k + 1)]
    rfl

/-- The waits of a loop that goes on to the call `k`. -/
theorem waits_onward (k : Nat) :
    (Move.call 0 :: (List.range k).flatMap (onward p)).filterMap Move.wait?
      = (List.range k).map p.wait := by
  induction k with
  | zero => rfl
  | succ k ih =>
    rw [List.range_succ, List.flatMap_append, ← List.cons_append, List.filterMap_append, ih,
      List.map_append]
    rfl

/-- **A loop of attempts stops at the first call that settles it**, and there is one.  It gives the
outcome of this call.  It makes the calls up to this one, each once and in order; between two of them
it waits once, as long as the policy says for the first of the two; and it does nothing after the last
one. -/
theorem run_stops (p : RetryPolicy) (outcome : Nat → Except Fault α) :
    ∃ k, IsLeast {n | Settles p outcome n} k ∧ (run p outcome).result = outcome k ∧
      (run p outcome).moves
        = .call 0 :: (List.range k).flatMap (fun n => [.sleep (p.wait n), .call (n + 1)]) ∧
      (run p outcome).calls = k + 1 ∧ (run p outcome).waits = (List.range k).map p.wait := by
  classical
  -- the last call that may be made settles the loop, so there is a first one that does
  have hlast : ∃ n, Settles p outcome n := ⟨p.maxRetries, .inr (.inr rfl)⟩
  have hleast : IsLeast {n | Settles p outcome n} (Nat.find hlast) :=
    ⟨Nat.find_spec hlast, fun n hn => Nat.find_min' hlast hn⟩
  refine ⟨Nat.find hlast, hleast, ?_⟩
  rw [run_of_isLeast hleast]
  refine ⟨rfl, rfl, ?_, waits_onward _⟩
  rw [calls, attempts_onward, List.length_range]

/-- Two passing failures and a success, with room for five retries: three calls and two waits. -/
example : (run ⟨5, 100, 150⟩ fun n =>
      if n < 2 then .error (.agentRequest "HTTP 503 Service Unavailable: ") else .ok n).moves
    = [.call 0, .sleep 100, .call 1, .sleep 150, .call 2] := by
  decide +kernel

end Flowgraph.Attempts
