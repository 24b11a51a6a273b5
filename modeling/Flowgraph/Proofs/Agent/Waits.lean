import Mathlib.Data.Rat.Floor
import Mathlib.Tactic.FieldSimp
import Mathlib.Tactic.Linarith
import Flowgraph.Agent.Retry
import Flowgraph.Proofs.Json.Members

/-!
# Waits that never wrap

A wait is doubled from attempt to attempt, in numbers of 64 bits.  From attempt 64 on the power of two
does not fit any more, and for a long first wait the product is too large much earlier; the greatest
number of 64 bits takes the place of both.  None of this shows in a wait.  A power that has saturated
gives a product that saturates as well, unless the first wait is zero (`RetryPolicy.min_mul_min`), and
what saturates is cut down to the greatest wait of the policy, which is a number of 64 bits itself.  So
a wait is what unbounded numbers make of it (`RetryPolicy.wait_eq`).

Jitter takes a share of a wait and drops what is less than a millisecond.  With the shares from four
fifths up to, but not including, six fifths this gives every length from `leastJittered` to
`mostJittered`, and no other one (`RetryPolicy.exists_jittered_iff`).
-/

namespace Flowgraph

/-- A natural number that has been read is below its bound. -/
theorem Decoder.lt_of_natural {bound : Nat} {expected : String} {t : Tree} {n : Nat}
    (h : natural bound expected t = .ok n) : n < bound := by
  unfold natural at h
  split at h
  · split at h
    · next hbound =>
      obtain rfl := Except.ok.inj h
      simp only [Bool.and_eq_true, decide_eq_true_eq] at hbound
      exact hbound.2
    · exact nomatch h
  · exact nomatch h

namespace RetryPolicy

variable {p : RetryPolicy}

/-! ### Before jitter -/

/-- **The factor of an attempt** is the power of two as far as 64 bits go. -/
theorem factor_eq (attempt : Nat) : factor attempt = min (2 ^ attempt) wordMax := by
  unfold factor
  by_cases h : attempt < 64
  · have hfits : 2 ^ attempt ≤ wordMax :=
      calc 2 ^ attempt
          ≤ 2 ^ 63 := Nat.pow_le_pow_right (by decide) (by omega)
        _ ≤ wordMax := by decide
    rw [if_pos h, min_eq_left hfits, Nat.pow_eq]
  · have hlarge : wordMax ≤ 2 ^ attempt :=
      calc wordMax
          ≤ 2 ^ 64 := by decide
        _ ≤ 2 ^ attempt := Nat.pow_le_pow_right (by decide) (by omega)
    rw [if_neg h, min_eq_right hlarge]

/-- **A factor may saturate before the product does**: nothing changes if it is saturated first. -/
theorem min_mul_min (a x limit : Nat) : min (a * min x limit) limit = min (a * x) limit := by
  rcases Nat.eq_zero_or_pos a with rfl | ha
  · rw [Nat.zero_mul, Nat.zero_mul]
  · rcases Nat.le_total x limit with hx | hx
    · rw [min_eq_left hx]
    · -- the factor is cut down to the limit, and both products are no less than that
      have hlimit : limit ≤ a * limit := Nat.le_mul_of_pos_left limit ha
      have hproduct : limit ≤ a * x := hlimit.trans (Nat.mul_le_mul_left a hx)
      rw [min_eq_right hx, min_eq_right hlimit, min_eq_right hproduct]

/-- **A wait is what unbounded numbers make of it**, if the greatest wait is a number of 64 bits. -/
theorem wait_eq (hp : p.maxWait ≤ wordMax) (attempt : Nat) :
    p.wait attempt = min (p.initialWait * 2 ^ attempt) p.maxWait :=
  calc p.wait attempt
      = min (min (p.initialWait * min (2 ^ attempt) wordMax) wordMax) p.maxWait := by
        rw [wait, factor_eq]
    _ = min (min (p.initialWait * 2 ^ attempt) wordMax) p.maxWait := by rw [min_mul_min]
    _ = min (p.initialWait * 2 ^ attempt) p.maxWait := by rw [min_assoc, min_eq_right hp]

/-- No wait is longer than the greatest one of the policy. -/
theorem wait_le_maxWait (p : RetryPolicy) (attempt : Nat) : p.wait attempt ≤ p.maxWait :=
  min_le_right _ _

/-- A wait is a number of 64 bits. -/
theorem wait_le_wordMax (p : RetryPolicy) (attempt : Nat) : p.wait attempt ≤ wordMax :=
  (min_le_left _ _).trans (min_le_right _ _)

/-- Waits do not get shorter. -/
theorem wait_mono (hp : p.maxWait ≤ wordMax) : Monotone p.wait := by
  intro attempt later hle
  rw [wait_eq hp, wait_eq hp]
  apply min_le_min_right
  exact Nat.mul_le_mul_left _ (Nat.pow_le_pow_right (by decide) hle)

/-- The greatest wait of a policy that has been read is a number of 64 bits. -/
theorem maxWait_le_of_decoder {t : Tree} (h : decoder t = .ok p) : p.maxWait ≤ wordMax := by
  obtain ⟨⟨maxRetries, initialWait, maxWait, _⟩, hrow, rfl⟩ := map_eq_ok_iff.mp h
  obtain ⟨-, -, hmax, -⟩ := Decoder.decoded_of_record hrow
  rcases hmax with ⟨t, -, ht⟩ | hstandard
  · exact Nat.le_pred_of_lt (Decoder.lt_of_natural ht)
  · -- a policy that does not say has the standard one
    obtain rfl := Option.some.inj hstandard
    show standard.maxWait ≤ wordMax
    decide

/-! ### With jitter -/

/-- A share of a wait is rounded down, and saturates. -/
theorem jittered_eq (wait : Nat) (share : ℚ) :
    jittered wait share = min ⌊(wait : ℚ) * share⌋₊ wordMax := by
  rw [jittered, ← Int.floor_toNat]
  rfl

/-- The shortest jittered wait is four fifths of the wait, rounded down. -/
theorem leastJittered_eq (wait : Nat) : leastJittered wait = ⌊4 / 5 * (wait : ℚ)⌋₊ := by
  have hshare : 4 / 5 * (wait : ℚ) = ((wait * 4 : Nat) : ℚ) / ((5 : Nat) : ℚ) := by
    push_cast
    ring
  rw [hshare, Rat.natFloor_natCast_div_natCast, leastJittered]

/-- The longest jittered wait is no more than six fifths of the wait. -/
theorem mostJittered_le (wait : Nat) : (mostJittered wait : ℚ) ≤ 6 / 5 * wait := by
  have hfifths : 5 * mostJittered wait ≤ 6 * wait := by
    unfold mostJittered
    omega
  have hcast : (5 : ℚ) * mostJittered wait ≤ 6 * wait := by exact_mod_cast hfifths
  linarith

/-- Jitter gives no shorter wait than `leastJittered`. -/
theorem leastJittered_le {wait : Nat} {share : ℚ} (hwait : wait ≤ wordMax) (hshare : 4 / 5 ≤ share) :
    leastJittered wait ≤ jittered wait share := by
  rw [jittered_eq]
  apply le_min
  · rw [leastJittered_eq]
    apply Nat.floor_mono
    rw [mul_comm]
    exact mul_le_mul_of_nonneg_left hshare (Nat.cast_nonneg wait)
  · unfold leastJittered
    omega

/-- Jitter gives no longer wait than `mostJittered`. -/
theorem jittered_le {wait : Nat} {share : ℚ} (hlow : 4 / 5 ≤ share) (hhigh : share < 6 / 5) :
    jittered wait share ≤ mostJittered wait := by
  rw [jittered_eq]
  apply min_le_min_right
  rcases Nat.eq_zero_or_pos wait with rfl | hpos
  · simp
  · -- the bound is not reached, so the floor stays a fifth below it
    have hcast : (0 : ℚ) < wait := Nat.cast_pos.mpr hpos
    have hfloor : (⌊(wait : ℚ) * share⌋₊ : ℚ) ≤ wait * share := Nat.floor_le (by nlinarith)
    have hlt : (5 : ℚ) * ⌊(wait : ℚ) * share⌋₊ < 6 * wait := by nlinarith
    have hfifths : 5 * ⌊(wait : ℚ) * share⌋₊ < 6 * wait := by exact_mod_cast hlt
    omega

/-- **The lengths that jitter gives** are those from `leastJittered` to `mostJittered`. -/
theorem exists_jittered_iff {wait n : Nat} (hwait : wait ≤ wordMax) :
    (∃ share : ℚ, 4 / 5 ≤ share ∧ share < 6 / 5 ∧ jittered wait share = n) ↔
      leastJittered wait ≤ n ∧ n ≤ mostJittered wait := by
  constructor
  · rintro ⟨share, hlow, hhigh, rfl⟩
    exact ⟨leastJittered_le hwait hlow, jittered_le hlow hhigh⟩
  · rintro ⟨hleast, hmost⟩
    -- the length is read off as a quotient, or it is the shortest one
    have hword : n ≤ wordMax := hmost.trans (min_le_right _ _)
    by_cases hfifths : 4 * wait ≤ 5 * n
    · -- the length is a share of the wait itself, or both are zero
      rcases Nat.eq_zero_or_pos wait with rfl | hpos
      · obtain rfl : n = 0 := by simpa [mostJittered] using hmost
        exact ⟨1, by norm_num, by norm_num, by rw [jittered_eq]; simp⟩
      · have hcast : (0 : ℚ) < wait := Nat.cast_pos.mpr hpos
        have hupper : 5 * n < 6 * wait := by
          unfold mostJittered at hmost
          omega
        refine ⟨n / wait, ?_, ?_, ?_⟩
        · rw [le_div_iff₀ hcast]
          have : (4 : ℚ) * wait ≤ 5 * n := by exact_mod_cast hfifths
          linarith
        · rw [div_lt_iff₀ hcast]
          have : (5 : ℚ) * n < 6 * wait := by exact_mod_cast hupper
          linarith
        · rw [jittered_eq, mul_div_cancel₀ _ hcast.ne', Nat.floor_natCast, min_eq_left hword]
    · -- only the shortest length lies below four fifths of the wait
      obtain rfl : n = leastJittered wait := by
        unfold leastJittered at hleast ⊢
        omega
      refine ⟨4 / 5, le_refl _, by norm_num, ?_⟩
      rw [jittered_eq, mul_comm, ← leastJittered_eq, min_eq_left hword]

/-- Jitter makes of seven milliseconds at least five and at most eight. -/
example : leastJittered 7 = 5 ∧ mostJittered 7 = 8 := by decide

/-! ### The waits of a policy -/

/-- **The waits of a policy never wrap**, if its greatest wait is a number of 64 bits.  Each is the
first wait times the power of two of the attempt, in unbounded numbers, or the greatest wait if that is
less.  So waits do not get shorter, and none is longer than the greatest one.  Whatever share of it
jitter takes, from four fifths up to six fifths, the wait stays between four fifths of it, rounded down,
and six fifths of it. -/
theorem waits_never_wrap {p : RetryPolicy} (hp : p.maxWait ≤ wordMax) :
    (∀ attempt, p.wait attempt = min (p.initialWait * 2 ^ attempt) p.maxWait) ∧
      Monotone p.wait ∧ (∀ attempt, p.wait attempt ≤ p.maxWait) ∧
      ∀ (attempt : Nat) (share : ℚ), 4 / 5 ≤ share → share < 6 / 5 →
        ⌊4 / 5 * (p.wait attempt : ℚ)⌋₊ ≤ p.backoff attempt share ∧
          (p.backoff attempt share : ℚ) ≤ 6 / 5 * p.wait attempt := by
  refine ⟨wait_eq hp, wait_mono hp, wait_le_maxWait p, ?_⟩
  intro attempt share hlow hhigh
  obtain ⟨hleast, hmost⟩ := (exists_jittered_iff (wait_le_wordMax p attempt)).mp
    ⟨share, hlow, hhigh, rfl⟩
  constructor
  · -- the quotient of naturals in `leastJittered` is the floor of the statement
    rw [← leastJittered_eq]
    exact hleast
  · calc (p.backoff attempt share : ℚ)
        ≤ mostJittered (p.wait attempt) := Nat.cast_le.mpr hmost
      _ ≤ 6 / 5 * p.wait attempt := mostJittered_le _

/-- A policy whose waits saturate. -/
def patient : RetryPolicy := ⟨100, 3, wordMax⟩

/-- From attempt 63 on the product does not fit, and from attempt 64 on the power does not either.  Of
the longest wait jitter leaves no less than four fifths. -/
theorem waits_never_wrap_patient :
    (patient.maxWait ≤ wordMax ∧ (4 / 5 : ℚ) ≤ 11 / 10 ∧ (11 / 10 : ℚ) < 6 / 5) ∧
      patient.wait 62 = 3 * 2 ^ 62 ∧ patient.wait 63 = wordMax ∧ patient.wait 64 = wordMax ∧
      14757395258967641292 ≤ patient.backoff 64 (11 / 10) ∧
      (patient.backoff 64 (11 / 10) : ℚ) ≤ 6 / 5 * wordMax := by
  have hmax : patient.maxWait ≤ wordMax := le_refl _
  have hlow : (4 / 5 : ℚ) ≤ 11 / 10 := by norm_num
  have hhigh : (11 / 10 : ℚ) < 6 / 5 := by norm_num
  obtain ⟨hwait, -, -, hjitter⟩ := waits_never_wrap hmax
  obtain ⟨hleast, hmost⟩ := hjitter 64 (11 / 10) hlow hhigh
  -- from here on the wait is the greatest one
  have hlast : patient.wait 64 = wordMax := by
    rw [hwait]
    decide
  have hfifths : ⌊4 / 5 * ((patient.wait 64 : Nat) : ℚ)⌋₊ = 14757395258967641292 := by
    rw [hlast, ← leastJittered_eq]
    decide
  refine ⟨⟨hmax, hlow, hhigh⟩, ?_, ?_, hlast, ?_, ?_⟩
  · rw [hwait]
    decide
  · rw [hwait]
    decide
  · rw [← hfifths]
    exact hleast
  · rw [← hlast]
    exact hmost

end RetryPolicy

end Flowgraph
