import Mathlib.Algebra.Order.Field.Rat
import Mathlib.Algebra.Order.Field.Power
import Mathlib.Tactic.FieldSimp
import Mathlib.Tactic.Linarith
import Flowgraph.Number.Shortest
import Flowgraph.Proofs.Number.Rounding

/-!
# The shortest decimal of a number

The search for the shortest decimal goes from coarse grids to finer ones.  On a grid that is finer than
the interval of a number is wide, one of the two neighbours of the number lies in the interval, and the
grid of seventeen digits is always fine enough.  So the search ends with a decimal that lies in the
interval, and this decimal has no more than seventeen digits (`Binary.shortest_spec`).
-/

namespace Flowgraph

/-! ### Ratios and powers of ten -/

namespace Decimal

/-- The number that a decimal stands for. -/
def value (d : Decimal) : ℚ := d.digits * (10 : ℚ) ^ d.exponent

theorem below_iff {num den : Nat} {p : Int} :
    below num den p = true ↔ (num : ℚ) < den * (10 : ℚ) ^ p := by
  cases p with
  | ofNat n =>
    rw [below, decide_eq_true_eq, Int.ofNat_eq_natCast, zpow_natCast, Nat.pow_eq]
    exact_mod_cast Iff.rfl
  | negSucc n =>
    rw [below, decide_eq_true_eq, zpow_negSucc, lt_mul_inv_iff₀ (by positivity), Nat.pow_eq]
    exact_mod_cast Iff.rfl

/-- The whole part of a ratio that is divided by a power of ten. -/
theorem scaleDown_spec {num den : Nat} (hden : 0 < den) (k : Int) {q : Nat}
    (hq : (scaleDown num den k).1 / (scaleDown num den k).2 = q) :
    (q : ℚ) * (den * (10 : ℚ) ^ k) ≤ num ∧ (num : ℚ) < (q + 1 : ℚ) * (den * (10 : ℚ) ^ k) := by
  have hparts : ∀ {a b : Nat}, 0 < b → a / b = q → q * b ≤ a ∧ a < (q + 1) * b :=
    fun hb h => ⟨h ▸ Nat.div_mul_le_self _ _, (Nat.div_lt_iff_lt_mul hb).mp (h ▸ Nat.lt_succ_self _)⟩
  cases k with
  | ofNat n =>
    obtain ⟨hle, hlt⟩ := hparts (b := den * 10 ^ n) (by positivity) hq
    rw [Int.ofNat_eq_natCast, zpow_natCast]
    exact ⟨by exact_mod_cast hle, by exact_mod_cast hlt⟩
  | negSucc n =>
    obtain ⟨hle, hlt⟩ := hparts hden hq
    rw [zpow_negSucc, ← mul_assoc, ← mul_assoc, mul_inv_le_iff₀ (by positivity),
      lt_mul_inv_iff₀ (by positivity)]
    exact ⟨by exact_mod_cast hle, by exact_mod_cast hlt⟩

/-- Where the search for a power of ten ends. -/
theorem firstBelow_spec (num den : Nat) (p : Int) (tries : Nat) :
    (firstBelow num den p tries = p ∨ below num den (firstBelow num den p tries - 1) = false) ∧
      (firstBelow num den p tries = p + tries ∨ below num den (firstBelow num den p tries) = true) ∧
      p ≤ firstBelow num den p tries ∧ firstBelow num den p tries ≤ p + tries := by
  induction tries generalizing p with
  | zero => simp [firstBelow]
  | succ tries ih =>
    rw [firstBelow]
    split
    · next h => exact ⟨.inl rfl, .inr h, le_refl _, by omega⟩
    · next h =>
      obtain ⟨hlow, hhigh, hle, hge⟩ := ih (p + 1)
      refine ⟨.inr ?_, ?_, by omega, by push_cast; omega⟩
      · rcases hlow with heq | hlow
        · rw [heq, add_sub_cancel_right]
          simpa using h
        · exact hlow
      · rcases hhigh with heq | hhigh
        · exact .inl (by rw [heq]; push_cast; omega)
        · exact .inr hhigh

/-- Moving zeros into the exponent does not change the number, nor does it add digits. -/
theorem trimmed_spec (digits : Nat) (exponent : Int) (steps : Nat) :
    (trimmed digits exponent steps).value = (⟨digits, exponent⟩ : Decimal).value ∧
      (trimmed digits exponent steps).digits ≤ digits := by
  induction steps generalizing digits exponent with
  | zero => exact ⟨rfl, le_refl _⟩
  | succ steps ih =>
    rw [trimmed]
    split
    · next h =>
      obtain ⟨hvalue, hdigits⟩ := ih (digits / 10) (exponent + 1)
      refine ⟨?_, hdigits.trans (Nat.div_le_self _ _)⟩
      have hten : digits % 10 = 0 := by
        simp only [Bool.and_eq_true, beq_iff_eq] at h
        exact h.2
      have hdiv : digits / 10 * 10 = digits := Nat.div_mul_cancel (Nat.dvd_of_mod_eq_zero hten)
      have hcast : ((digits / 10 : Nat) : ℚ) * 10 = digits := by exact_mod_cast hdiv
      rw [hvalue, value, value, ← hcast, zpow_add_one₀ (by norm_num)]
      ring
    · exact ⟨rfl, le_refl _⟩

end Decimal

/-! ### Intervals -/

namespace Interval

/-- A point lies in an interval. -/
def Holds (i : Interval) (q : ℚ) : Prop :=
  if i.closed then (i.low : ℚ) ≤ q ∧ q ≤ i.high else (i.low : ℚ) < q ∧ q < i.high

variable {i : Interval} {q : ℚ}

theorem Holds.le (h : i.Holds q) : q ≤ i.high := by
  unfold Holds at h
  split at h
  · exact h.2
  · exact h.2.le

/-- What lies between the ends of an interval lies in it. -/
theorem holds_of_lt (hlow : (i.low : ℚ) < q) (hhigh : q < i.high) : i.Holds q := by
  unfold Holds
  split
  · exact ⟨hlow.le, hhigh.le⟩
  · exact ⟨hlow, hhigh⟩

theorem contains_iff {num den : Nat} (hden : 0 < den) :
    i.contains num den = true ↔ i.Holds ((num : ℚ) / den) := by
  have hpos : (0 : ℚ) < den := by exact_mod_cast hden
  unfold contains Holds
  split
  · rw [Bool.and_eq_true, decide_eq_true_eq, decide_eq_true_eq, le_div_iff₀ hpos, div_le_iff₀ hpos]
    exact_mod_cast Iff.rfl
  · rw [Bool.and_eq_true, decide_eq_true_eq, decide_eq_true_eq, lt_div_iff₀ hpos, div_lt_iff₀ hpos]
    exact_mod_cast Iff.rfl

end Interval

namespace Binary

/-! ### Grids -/

variable {quarters one : Nat} {i : Interval} {k : Int}

/-- A point of a grid lies in the interval. -/
def hit (one : Nat) (i : Interval) (k : Int) (n : Nat) : Bool :=
  match k with
  | .ofNat e => i.contains (n * Nat.pow 10 e * one) 1
  | .negSucc e => i.contains (n * one) (Nat.pow 10 (e + 1))

theorem hit_iff {n : Nat} : hit one i k n = true ↔ i.Holds (n * (10 : ℚ) ^ k * one) := by
  cases k with
  | ofNat e =>
    rw [hit, Interval.contains_iff Nat.one_pos, Int.ofNat_eq_natCast, zpow_natCast]
    simp
  | negSucc e =>
    rw [hit, Interval.contains_iff (by simp only [Nat.pow_eq]; positivity), zpow_negSucc]
    refine Eq.to_iff (congrArg _ ?_)
    simp only [Nat.pow_eq]
    push_cast
    rw [div_eq_mul_inv]
    ring

/-- The neighbour is one of the two next points of the grid, if one of them lies in the interval. -/
theorem neighbour?_eq {num den : Nat} (h : Decimal.scaleDown quarters one k = (num, den)) :
    neighbour? quarters one i k =
      if hit one i k (num / den) then
        if hit one i k (num / den + 1) then some (Format.nearestEven num den) else some (num / den)
      else if hit one i k (num / den + 1) then some (num / den + 1) else none := by
  cases k with
  | ofNat e =>
    simp only [neighbour?, hit, h]
    by_cases hfirst : i.contains (num / den * Nat.pow 10 e * one) 1 <;>
      by_cases hsecond : i.contains ((num / den + 1) * Nat.pow 10 e * one) 1 <;>
      simp only [hfirst, hsecond, if_true, Bool.false_eq_true, if_false]
  | negSucc e =>
    simp only [neighbour?, hit, h]
    by_cases hfirst : i.contains (num / den * one) (Nat.pow 10 (e + 1)) <;>
      by_cases hsecond : i.contains ((num / den + 1) * one) (Nat.pow 10 (e + 1)) <;>
      simp only [hfirst, hsecond, if_true, Bool.false_eq_true, if_false]

/-- **The points of a grid next to a number**, and which of them is taken: the only one in the interval,
or one of the two if both are. -/
theorem exists_neighbours (hone : 0 < one) (quarters : Nat) (i : Interval) (k : Int) :
    ∃ d nearest : Nat, (d : ℚ) * (one * (10 : ℚ) ^ k) ≤ quarters ∧
      (quarters : ℚ) < (d + 1 : ℚ) * (one * (10 : ℚ) ^ k) ∧ (nearest = d ∨ nearest = d + 1) ∧
      neighbour? quarters one i k =
        if hit one i k d then if hit one i k (d + 1) then some nearest else some d
        else if hit one i k (d + 1) then some (d + 1) else none := by
  obtain ⟨num, den, hscaled⟩ : ∃ num den, Decimal.scaleDown quarters one k = (num, den) := ⟨_, _, rfl⟩
  have hquotient : (Decimal.scaleDown quarters one k).1 / (Decimal.scaleDown quarters one k).2
      = num / den := by rw [hscaled]
  obtain ⟨hle, hlt⟩ := Decimal.scaleDown_spec hone k hquotient
  have hlow := Format.div_le_nearestEven num den
  have hhigh := Format.nearestEven_le_div_succ num den
  exact ⟨num / den, Format.nearestEven num den, hle, hlt, by omega, neighbour?_eq hscaled⟩

/-- What is found on a grid lies in the interval, and is not far above the number. -/
theorem neighbour?_eq_some {n : Nat} (hone : 0 < one) (h : neighbour? quarters one i k = some n) :
    i.Holds (n * (10 : ℚ) ^ k * one) ∧
      (n : ℚ) * (one * (10 : ℚ) ^ k) ≤ quarters + one * (10 : ℚ) ^ k := by
  obtain ⟨d, nearest, hle, -, hnearest, hd⟩ := exists_neighbours hone quarters i k
  rw [hd] at h
  have hpos : (0 : ℚ) < one * (10 : ℚ) ^ k := by
    have : (0 : ℚ) < one := by exact_mod_cast hone
    positivity
  -- whichever of the two is taken, it lies in the interval and at most one cell above
  have hlow : hit one i k d = true → n = d → i.Holds (n * (10 : ℚ) ^ k * one) ∧
      (n : ℚ) * (one * (10 : ℚ) ^ k) ≤ quarters + one * (10 : ℚ) ^ k := by
    rintro hhit rfl
    exact ⟨hit_iff.mp hhit, by linarith⟩
  have hhigh : hit one i k (d + 1) = true → n = d + 1 → i.Holds (n * (10 : ℚ) ^ k * one) ∧
      (n : ℚ) * (one * (10 : ℚ) ^ k) ≤ quarters + one * (10 : ℚ) ^ k := by
    rintro hhit rfl
    refine ⟨hit_iff.mp hhit, ?_⟩
    push_cast
    linarith
  split at h <;> rename_i hfirst <;> split at h <;> rename_i hsecond
  · obtain rfl := Option.some.inj h
    exact hnearest.elim (hlow hfirst) (hhigh hsecond)
  · exact hlow hfirst (Option.some.inj h).symm
  · exact hhigh hsecond (Option.some.inj h).symm
  · cases h

/-- **On a fine grid something is found.** -/
theorem isSome_neighbour? (hone : 0 < one) (hlow : i.low < quarters) (hhigh : quarters < i.high)
    (hfine : (one : ℚ) * (10 : ℚ) ^ k < i.high - i.low) : (neighbour? quarters one i k).isSome := by
  cases h : neighbour? quarters one i k with
  | some n => rfl
  | none =>
    obtain ⟨d, nearest, hle, hlt, -, hd⟩ := exists_neighbours hone quarters i k
    rw [hd] at h
    have hlow' : (i.low : ℚ) < quarters := by exact_mod_cast hlow
    have hhigh' : (quarters : ℚ) < i.high := by exact_mod_cast hhigh
    -- both neighbours are outside, so they are as far apart as the ends of the interval
    have hbelow : (d : ℚ) * (10 : ℚ) ^ k * one ≤ i.low := by
      by_contra hin
      have hhit : hit one i k d = true :=
        hit_iff.mpr (Interval.holds_of_lt (by linarith) (by linarith))
      rw [if_pos hhit] at h
      split at h <;> cases h
    have habove : (i.high : ℚ) ≤ (d + 1 : Nat) * (10 : ℚ) ^ k * one := by
      by_contra hin
      have hhit : hit one i k (d + 1) = true :=
        hit_iff.mpr (Interval.holds_of_lt (by push_cast; linarith) (by linarith))
      rw [if_pos hhit, if_pos hhit] at h
      split at h <;> cases h
    push_cast at habove
    linarith

/-- **The search ends on a grid that is fine enough**, or on a coarser one. -/
theorem shortestFrom_spec (hone : 0 < one) (hlow : i.low < quarters) (hhigh : quarters < i.high)
    {least : Int} (hfine : (one : ℚ) * (10 : ℚ) ^ least < i.high - i.low) {g : Nat}
    (hleast : least ≤ k) (hgrids : k < least + g) :
    ∃ n k', least ≤ k' ∧ shortestFrom quarters one i k g = Decimal.trimmed n k' (Nat.log2 n + 1) ∧
      i.Holds (n * (10 : ℚ) ^ k' * one) ∧
      (n : ℚ) * (one * (10 : ℚ) ^ k') ≤ quarters + one * (10 : ℚ) ^ k' := by
  induction g generalizing k with
  | zero => omega
  | succ g ih =>
    rw [shortestFrom]
    cases hfound : neighbour? quarters one i k with
    | some n =>
      obtain ⟨hin, hle⟩ := neighbour?_eq_some hone hfound
      exact ⟨n, k, hleast, rfl, hin, hle⟩
    | none =>
      -- on the finest grid something would have been found
      have hne : least ≠ k := by
        rintro rfl
        have hsome := isSome_neighbour? hone hlow hhigh hfine
        rw [hfound] at hsome
        exact nomatch hsome
      exact ih (by omega) (by omega)

/-! ### Numbers of 64 bits -/

/-- The quarters of a unit in one. -/
def doubleOne : Nat := 4 * Nat.pow 2 Format.double.scale

/-- Where the search for the position of the point begins, for a number of quarters whose logarithm is
given. -/
def startPosition (log : Nat) : Int := ((log : Int) - 1076) * 30103 / 100000 - 1

/-- The search begins close enough below the position of the point. -/
theorem startPosition_spec {log : Nat} (hlog : log < 2101) :
    Decimal.below (2 ^ log) doubleOne (startPosition log - 1) = false ∧
      Decimal.below (2 ^ (log + 1)) doubleOne (startPosition log + 4) = true := by
  have hall : ((List.range 2101).all fun log =>
      !Decimal.below (2 ^ log) doubleOne (startPosition log - 1) &&
        Decimal.below (2 ^ (log + 1)) doubleOne (startPosition log + 4)) = true := by
    decide +kernel
  have hlog := List.all_eq_true.mp hall log (List.mem_range.mpr hlog)
  rwa [Bool.and_eq_true, Bool.not_eq_true'] at hlog

theorem doubleOne_eq : doubleOne = 2 ^ (2 + Format.double.scale) := by
  unfold doubleOne
  generalize Format.double.scale = s
  exact (Nat.pow_add 2 2 s).symm

theorem doubleOne_pos : 0 < doubleOne := by
  rw [doubleOne_eq]
  positivity

theorem log2_doubleOne : doubleOne.log2 = 1076 := by
  rw [doubleOne_eq, Nat.log2_two_pow]
  rfl

/-- The shortest decimal of the greatest number of 64 bits. -/
def largest : Nat := 17976931348623157 * 10 ^ 292

/-- The greatest number of 64 bits, its shortest decimal, and how far the largest decimal is from it. -/
theorem greatest_spec :
    (∀ negative,
      (⟨negative, Format.double.greatest⟩ : Double).shortest = ⟨17976931348623157, 292⟩) ∧
      ∃ t ≤ 2045, Format.double.greatest = (2 ^ 53 - 1) * 2 ^ t ∧
        4 * ((2 ^ 53 - 1) * 2 ^ t) ≤ largest * doubleOne + 2 * 2 ^ t :=
  ⟨by decide +kernel, 2045, by decide +kernel⟩

/-- **The position of the point** is where the powers of ten get above a number. -/
theorem pointPosition_spec {quarters : Nat} (hne : quarters ≠ 0) (hlog : quarters.log2 < 2101) :
    (doubleOne : ℚ) * (10 : ℚ) ^ (Decimal.pointPosition quarters doubleOne - 1) ≤ quarters ∧
      (quarters : ℚ) < doubleOne * (10 : ℚ) ^ Decimal.pointPosition quarters doubleOne := by
  obtain ⟨hbelow, habove⟩ := startPosition_spec hlog
  have hposition : Decimal.pointPosition quarters doubleOne
      = Decimal.firstBelow quarters doubleOne (startPosition quarters.log2) 4 := by
    rw [Decimal.pointPosition, log2_doubleOne]
    rfl
  obtain ⟨hfirst, hlast, -, -⟩ :=
    Decimal.firstBelow_spec quarters doubleOne (startPosition quarters.log2) 4
  rw [← hposition] at hfirst hlast
  have hlow : ((2 ^ quarters.log2 : Nat) : ℚ) ≤ quarters := by exact_mod_cast Nat.log2_self_le hne
  have hhigh : (quarters : ℚ) < (2 ^ (quarters.log2 + 1) : Nat) := by
    exact_mod_cast Nat.lt_log2_self
  -- where the search has stopped at once or run out, the estimate itself is sharp enough
  refine ⟨?_, ?_⟩
  · rcases hfirst with heq | hfirst
    · rw [heq]
      have hnot := mt Decimal.below_iff.mpr (Bool.eq_false_iff.mp hbelow)
      exact (not_lt.mp hnot).trans hlow
    · exact not_lt.mp (mt Decimal.below_iff.mpr (Bool.eq_false_iff.mp hfirst))
  · rcases hlast with heq | hlast
    · rw [heq]
      exact hhigh.trans (Decimal.below_iff.mp habove)
    · exact Decimal.below_iff.mp hlast

/-- **How wide the interval of a number is**: more than its sixteenth power of ten below it. -/
theorem around_spec {units : Nat} (hpos : 0 < units) :
    (Interval.around .double units).low < 4 * units ∧
      4 * units < (Interval.around .double units).high ∧
      4 * units + 10 ^ 16 * (Interval.around .double units).low
        < 10 ^ 16 * (Interval.around .double units).high := by
  have hf : 0 < Format.double.precision := by decide
  generalize hs : Format.double.surplus units = s
  have hlt : units < 2 ^ 53 * 2 ^ s := by
    rw [← Nat.pow_add]
    exact (Format.surplus_le_iff hf).mp hs.le
  have hstep : 0 < 2 ^ s := by positivity
  -- unless nothing is dropped, all digits of the format are used
  have hlong : 2 ^ 52 * 2 ^ s ≤ units ∨ s = 0 := by
    rcases Nat.eq_zero_or_pos s with h | h
    · exact .inr h
    · have hle : 2 ^ (53 + (s - 1)) ≤ units :=
        Format.pow_le_of_lt_surplus hf (by rw [hs]; exact Nat.sub_one_lt_of_lt h)
      rw [← Nat.pow_add]
      exact .inl ((Nat.pow_le_pow_right (by decide) (by omega)).trans hle)
  unfold Interval.around
  dsimp only [Nat.pow_eq]
  rw [hs]
  by_cases hpower : (units / 2 ^ s == 2 ^ (Format.double.precision - 1) && s != 0) = true
  · -- the number is a power of two, up to what is below the digits that are kept
    rw [if_pos hpower]
    simp only [Bool.and_eq_true, beq_iff_eq, bne_iff_ne] at hpower
    have hnext : units < (2 ^ 52 + 1) * 2 ^ s :=
      (Nat.div_lt_iff_lt_mul hstep).mp (by rw [hpower.1]; exact Nat.lt_succ_self _)
    have hlong' := hlong.resolve_right hpower.2
    rw [Nat.pow_succ]
    generalize 2 ^ s = t at *
    omega
  · -- elsewhere the interval reaches half a step to either side
    rw [if_neg hpower, Nat.pow_succ]
    rcases hlong with hlong | rfl
    · generalize 2 ^ s = t at *
      omega
    · simp only [Nat.pow_zero] at *
      omega

theorem shortest_eq {x : Double} (h : x.units ≠ 0) :
    x.shortest = shortestFrom (4 * x.units) doubleOne (Interval.around .double x.units)
      (Decimal.pointPosition (4 * x.units) doubleOne - 1) 20 := by
  rw [shortest, if_neg h, doubleOne]

theorem log2_quarters_lt {x : Double} (hx : x.Fits) (h : x.units ≠ 0) :
    (4 * x.units).log2 < 2101 := by
  obtain ⟨-, t, ht, hgreatest, -⟩ := greatest_spec
  have hlog : x.units.log2 < 53 + t := by
    rw [Nat.log2_lt h, Nat.pow_add]
    exact hx.le_greatest.trans_lt
      (hgreatest.trans_lt (Nat.mul_lt_mul_of_pos_right (by decide) (by positivity)))
  have hdouble : (4 * x.units).log2 = x.units.log2 + 2 := by
    rw [show 4 * x.units = 2 * (2 * x.units) by ring, Nat.log2_two_mul (by omega),
      Nat.log2_two_mul h]
  omega

/-- **The shortest decimal of a number lies in its interval**, and has at most seventeen digits. -/
theorem shortest_spec {x : Double} (hx : x.Fits) (hpos : x.units ≠ 0) :
    (Interval.around .double x.units).Holds (x.shortest.value * doubleOne) ∧
      x.shortest.digits ≤ 10 ^ 17 := by
  obtain ⟨hlow, hhigh, hwide⟩ := around_spec (Nat.pos_of_ne_zero hpos)
  obtain ⟨hleast, hmost⟩ := pointPosition_spec (by omega) (log2_quarters_lt hx hpos)
  have hone := doubleOne_pos
  rw [shortest_eq hpos]
  generalize Decimal.pointPosition (4 * x.units) doubleOne = p at hleast hmost ⊢
  generalize doubleOne = one at hone hleast hmost ⊢
  have hone' : (0 : ℚ) < one := by exact_mod_cast hone
  -- the grid of seventeen digits is finer than the interval is wide
  have hten : (10 : ℚ) ^ (p - 1) = 10 ^ (p - 17) * 10 ^ 16 := by
    rw [← zpow_natCast (10 : ℚ) 16, ← zpow_add₀ (by norm_num)]
    congr 1
    push_cast
    ring
  have hfine : (one : ℚ) * (10 : ℚ) ^ (p - 17)
      < (Interval.around .double x.units).high - (Interval.around .double x.units).low := by
    have hwide' : (4 * x.units : ℚ) + 10 ^ 16 * (Interval.around .double x.units).low
        < 10 ^ 16 * (Interval.around .double x.units).high := by exact_mod_cast hwide
    rw [hten] at hleast
    push_cast at hleast
    linarith
  -- so the search meets a number of the grid before it is through
  obtain ⟨n, k, hk, hfound, hin, hnear⟩ :=
    shortestFrom_spec (k := p - 1) hone hlow hhigh hfine (g := 20) (by omega) (by omega)
  rw [hfound]
  obtain ⟨hvalue, hdigits⟩ := Decimal.trimmed_spec n k (Nat.log2 n + 1)
  refine ⟨?_, hdigits.trans ?_⟩
  · rw [hvalue]
    exact hin
  · -- on a grid of seventeen digits or fewer, the number has as many
    have hgrid : (10 : ℚ) ^ p ≤ 10 ^ k * 10 ^ 17 := by
      rw [← zpow_natCast (10 : ℚ) 17, ← zpow_add₀ (by norm_num)]
      exact zpow_le_zpow_right₀ (by norm_num) (by push_cast; omega)
    have hcell : (0 : ℚ) < one * 10 ^ k := by positivity
    have hbound : (n : ℚ) * (one * 10 ^ k) < (10 ^ 17 + 1) * (one * 10 ^ k) := by
      have hmul : (one : ℚ) * 10 ^ p ≤ one * (10 ^ k * 10 ^ 17) :=
        mul_le_mul_of_nonneg_left hgrid hone'.le
      linarith
    have hlt' : (n : ℚ) < 10 ^ 17 + 1 := lt_of_mul_lt_mul_right hbound hcell.le
    have hnat : n < 10 ^ 17 + 1 := by exact_mod_cast hlt'
    omega

/-! ### The greatest number -/

/-- The decimals in the interval of a number below the greatest are a good way below it. -/
theorem high_around_le {n t : Nat} (hexact : Format.double.IsExact n)
    (hlt : n < (2 ^ 53 - 1) * 2 ^ t) :
    (Interval.around .double n).high + 2 * 2 ^ t ≤ 4 * ((2 ^ 53 - 1) * 2 ^ t) := by
  have hf : 0 < Format.double.precision := by decide
  have hhigh : (Interval.around .double n).high = 4 * n + 2 ^ Format.double.surplus n * 2 := by
    rw [← Nat.pow_succ]
    rfl
  have hshort : n < 2 ^ 53 * 2 ^ Format.double.surplus n := by
    rw [← Nat.pow_add]
    exact (Format.surplus_le_iff hf).mp (Nat.le_refl _)
  have hle : Format.double.surplus n ≤ t := by
    rw [Format.surplus_le_iff hf, Nat.pow_add]
    exact hlt.trans_le (Nat.mul_le_mul_right _ (by decide))
  rw [hhigh]
  obtain ⟨k, hk⟩ := hexact
  rcases Nat.eq_or_lt_of_le hle with heq | hless
  · -- with as many digits dropped as of the greatest number, it is at least one step below it
    rw [heq] at hk ⊢
    have hstep : k + 1 ≤ 2 ^ 53 - 1 := by
      rw [hk, Nat.mul_comm] at hlt
      exact Nat.lt_of_mul_lt_mul_right hlt
    have hmul := Nat.mul_le_mul_right (2 ^ t) hstep
    rw [Nat.add_mul, Nat.one_mul, Nat.mul_comm, ← hk] at hmul
    omega
  · have hpow : 2 ^ Format.double.surplus n * 2 ≤ 2 ^ t := by
      rw [← Nat.pow_succ]
      exact Nat.pow_le_pow_right (by decide) hless
    omega

/-- **No shortest decimal is beyond that of the greatest number.** -/
theorem shortest_le_largest {x : Double} (hx : x.Fits) : x.shortest.value ≤ largest := by
  obtain ⟨negative, units⟩ := x
  by_cases hzero : units = 0
  · subst hzero
    have hvalue : (⟨negative, 0⟩ : Double).shortest.value = 0 := by
      simp [shortest, Decimal.value]
    rw [hvalue]
    exact_mod_cast Nat.zero_le _
  rcases Nat.eq_or_lt_of_le hx.le_greatest with heq | hlt
  · dsimp only at heq
    rw [heq, greatest_spec.1, Decimal.value, largest]
    norm_num
  · obtain ⟨-, t, -, hgreatest, hbound⟩ := greatest_spec
    have hhigh := high_around_le hx.isExact (hgreatest ▸ hlt)
    have hle : (Interval.around .double units).high ≤ largest * doubleOne :=
      Nat.le_of_add_le_add_right (hhigh.trans hbound)
    have hone : (0 : ℚ) < doubleOne := by exact_mod_cast doubleOne_pos
    refine le_of_mul_le_mul_right ?_ hone
    calc (⟨negative, units⟩ : Double).shortest.value * doubleOne
        ≤ ((Interval.around .double units).high : ℚ) := (shortest_spec hx hzero).1.le
      _ ≤ largest * doubleOne := by exact_mod_cast hle

end Binary

end Flowgraph
