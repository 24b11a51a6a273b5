import Mathlib.Tactic.Positivity
import Mathlib.Tactic.Ring
import Flowgraph.Number.Binary

/-!
# Rounding to a binary format

A magnitude is exact in a format if it has no binary digits below those that the format keeps
(`Format.IsExact`).  Rounding gives exact magnitudes (`Format.isExact_round`), leaves exact ones as they
are (`Format.round_mul_self`), and keeps the order of what it rounds (`Format.round_mono`).  A number
*fits* if it is exact and not beyond the greatest number of its format (`Binary.Fits`), and this is so
for whatever arithmetic gives.
-/

namespace Flowgraph

namespace Format

variable {f : Format} {n m a b d s : Nat}

/-! ### The nearest whole number -/

theorem div_le_nearestEven (a d : Nat) : a / d ≤ nearestEven a d := by
  unfold nearestEven
  dsimp only
  split <;> omega

theorem nearestEven_le_div_succ (a d : Nat) : nearestEven a d ≤ a / d + 1 := by
  unfold nearestEven
  dsimp only
  split <;> omega

/-- The nearest whole numbers are in the order of what they are nearest to. -/
theorem nearestEven_mono (h : a ≤ b) : nearestEven a d ≤ nearestEven b d := by
  rcases Nat.lt_or_ge (a / d) (b / d) with hlt | hge
  · exact ((nearestEven_le_div_succ a d).trans hlt).trans (div_le_nearestEven b d)
  · -- with one whole part, only the larger rest can be the one that is rounded up
    have hdiv : a / d = b / d := Nat.le_antisymm (Nat.div_le_div_right h) hge
    have ha := Nat.div_add_mod a d
    have hb := Nat.div_add_mod b d
    rw [hdiv] at ha
    have hmod : a % d ≤ b % d := by omega
    unfold nearestEven
    simp only [hdiv, Bool.or_eq_true, Bool.and_eq_true, decide_eq_true_eq, beq_iff_eq]
    generalize a % d = r, b % d = t, b / d = q at hmod
    split <;> split <;> omega

/-- A whole number is the nearest to itself. -/
theorem nearestEven_mul_self (hd : 0 < d) (m : Nat) : nearestEven (m * d) d = m := by
  unfold nearestEven
  rw [Nat.mul_div_cancel _ hd, Nat.mul_mod_left]
  simp only [Nat.mul_zero, Bool.or_eq_true, Bool.and_eq_true, decide_eq_true_eq, beq_iff_eq]
  rw [if_neg (by omega)]

/-! ### How many digits are dropped -/

/-- So many digits are dropped at most if what is left is short enough. -/
theorem surplus_le_iff (hf : 0 < f.precision) : f.surplus n ≤ s ↔ n < 2 ^ (f.precision + s) := by
  unfold surplus
  rcases Nat.eq_zero_or_pos n with rfl | hn
  · have hpow : 0 < 2 ^ (f.precision + s) := by positivity
    simp only [Nat.log2_zero]
    omega
  · rw [← Nat.log2_lt (Nat.pos_iff_ne_zero.mp hn)]
    omega

theorem surplus_mono (hf : 0 < f.precision) (h : n ≤ m) : f.surplus n ≤ f.surplus m :=
  (surplus_le_iff hf).mpr (h.trans_lt ((surplus_le_iff hf).mp (Nat.le_refl _)))

/-- A number of which more digits are dropped is longer. -/
theorem pow_le_of_lt_surplus (hf : 0 < f.precision) (h : s < f.surplus n) :
    2 ^ (f.precision + s) ≤ n :=
  Nat.not_lt.mp fun hlt => Nat.not_lt.mpr ((surplus_le_iff hf).mpr hlt) h

/-! ### Rounding -/

/-- **A magnitude is exact in a format**: no digit of it has to be dropped. -/
def IsExact (f : Format) (n : Nat) : Prop := 2 ^ f.surplus n ∣ n

/-- What is left of a magnitude, its low digits dropped, is exact. -/
theorem isExact_mul_pow (hf : 0 < f.precision) (h : m ≤ 2 ^ f.precision) (s : Nat) :
    f.IsExact (m * 2 ^ s) := by
  rcases Nat.eq_or_lt_of_le h with rfl | hlt
  · have hle : f.surplus (2 ^ f.precision * 2 ^ s) ≤ f.precision + s := by
      rw [surplus_le_iff hf, ← Nat.pow_add]
      exact Nat.pow_lt_pow_right (by decide) (by omega)
    rw [IsExact]
    generalize f.surplus _ = t at hle ⊢
    rw [← Nat.pow_add]
    exact Nat.pow_dvd_pow 2 hle
  · have hle : f.surplus (m * 2 ^ s) ≤ s := by
      rw [surplus_le_iff hf, Nat.pow_add]
      exact Nat.mul_lt_mul_of_pos_right hlt (by positivity)
    exact (Nat.pow_dvd_pow 2 hle).trans (Nat.dvd_mul_left _ _)

/-- What is kept of a rounded number has no more digits than the format, up to one more unit. -/
theorem nearestEven_surplus_le (hf : 0 < f.precision) (hd : 0 < d) :
    nearestEven a (d * 2 ^ f.surplus (a / d)) ≤ 2 ^ f.precision := by
  have hlt : a / d < 2 ^ (f.precision + f.surplus (a / d)) := (surplus_le_iff hf).mp (Nat.le_refl _)
  rw [Nat.pow_add] at hlt
  have hle : a ≤ 2 ^ f.precision * (d * 2 ^ f.surplus (a / d)) := by
    have hmul := (Nat.div_lt_iff_lt_mul hd).mp hlt
    calc a ≤ 2 ^ f.precision * 2 ^ f.surplus (a / d) * d := hmul.le
      _ = 2 ^ f.precision * (d * 2 ^ f.surplus (a / d)) := by ring
  calc nearestEven a (d * 2 ^ f.surplus (a / d))
      ≤ nearestEven (2 ^ f.precision * (d * 2 ^ f.surplus (a / d))) (d * 2 ^ f.surplus (a / d)) :=
        nearestEven_mono hle
    _ = 2 ^ f.precision := nearestEven_mul_self (by positivity) _

theorem round_eq (f : Format) (a d : Nat) :
    f.round a d = nearestEven a (d * 2 ^ f.surplus (a / d)) * 2 ^ f.surplus (a / d) := rfl

/-- **Rounding gives an exact magnitude.** -/
theorem isExact_round (hf : 0 < f.precision) (hd : 0 < d) : f.IsExact (f.round a d) := by
  rw [round_eq]
  exact isExact_mul_pow hf (nearestEven_surplus_le hf hd) _

/-- **Rounding keeps the order.** -/
theorem round_mono (hf : 0 < f.precision) (hd : 0 < d) (h : a ≤ b) : f.round a d ≤ f.round b d := by
  have hdiv : a / d ≤ b / d := Nat.div_le_div_right h
  rw [round_eq, round_eq]
  rcases Nat.eq_or_lt_of_le (surplus_mono (f := f) hf hdiv) with heq | hlt
  · rw [heq]
    exact Nat.mul_le_mul_right _ (nearestEven_mono h)
  · -- the larger number is longer, and the smaller one does not get beyond a power of two before it
    obtain ⟨t, ht⟩ : ∃ t, f.surplus (b / d) = t + 1 := ⟨_, (Nat.sub_one_add_one (by omega)).symm⟩
    have hlong : 2 ^ (f.precision + t) ≤ b / d := pow_le_of_lt_surplus hf (by omega)
    have hkept : 2 ^ f.precision ≤ 2 * nearestEven b (d * 2 ^ f.surplus (b / d)) := by
      obtain ⟨p, hp⟩ : ∃ p, f.precision = p + 1 := ⟨_, (Nat.sub_one_add_one (by omega)).symm⟩
      have hle : 2 ^ p ≤ b / (d * 2 ^ f.surplus (b / d)) := by
        rw [← Nat.div_div_eq_div_mul, Nat.le_div_iff_mul_le (by positivity), ← Nat.pow_add, ht]
        calc 2 ^ (p + (t + 1)) = 2 ^ (f.precision + t) := by rw [hp]; congr 1; omega
          _ ≤ b / d := hlong
      rw [hp, Nat.pow_succ, Nat.mul_comm]
      exact Nat.mul_le_mul_left 2 (hle.trans (div_le_nearestEven _ _))
    calc nearestEven a (d * 2 ^ f.surplus (a / d)) * 2 ^ f.surplus (a / d)
        ≤ 2 ^ f.precision * 2 ^ f.surplus (a / d) :=
          Nat.mul_le_mul_right _ (nearestEven_surplus_le hf hd)
      _ ≤ 2 * nearestEven b (d * 2 ^ f.surplus (b / d)) * 2 ^ t :=
          Nat.mul_le_mul hkept (Nat.pow_le_pow_right (by decide) (by omega))
      _ = nearestEven b (d * 2 ^ f.surplus (b / d)) * 2 ^ f.surplus (b / d) := by
          rw [ht, Nat.pow_succ]
          ring

/-- **An exact magnitude is rounded to itself.** -/
theorem round_mul_self (hd : 0 < d) (h : f.IsExact m) : f.round (m * d) d = m := by
  obtain ⟨k, hk⟩ := h
  rw [round_eq, Nat.mul_div_cancel _ hd]
  generalize hs : f.surplus m = s at hk ⊢
  have hfactor : m * d = k * (d * 2 ^ s) := by
    rw [hk]
    ring
  rw [hfactor, nearestEven_mul_self (by positivity), hk, Nat.mul_comm]

/-- What is not above an exact magnitude is not rounded beyond it. -/
theorem round_le (hf : 0 < f.precision) (hd : 0 < d) (hm : f.IsExact m) (h : a ≤ m * d) :
    f.round a d ≤ m :=
  (round_mono hf hd h).trans_eq (round_mul_self hd hm)

end Format

/-! ### Numbers of a format -/

namespace Binary

variable {f : Format} {x y : Binary f}

/-- **A number fits its format**: its magnitude is exact and not beyond the greatest one. -/
structure Fits (x : Binary f) : Prop where
  le_greatest : x.units ≤ f.greatest
  isExact : f.IsExact x.units

theorem fits_zero (negative : Bool) : (⟨negative, 0⟩ : Binary f).Fits :=
  ⟨Nat.zero_le _, Nat.dvd_zero _⟩

theorem Fits.setSign (h : x.Fits) (negative : Bool) : ({ x with negative } : Binary f).Fits :=
  ⟨h.le_greatest, h.isExact⟩

/-- The nearest number fits. -/
theorem fits_of_ofRatio? (hf : 0 < f.precision) {negative : Bool} {a d : Nat} (hd : 0 < d)
    (h : ofRatio? negative a d = some x) : x.Fits := by
  unfold ofRatio? at h
  dsimp only at h
  split at h
  · next hle =>
    obtain rfl := Option.some.inj h
    exact ⟨hle, Format.isExact_round hf hd⟩
  · exact nomatch h

theorem fits_of_mul? (hf : 0 < f.precision) (h : x.mul? y = some z) : z.Fits :=
  fits_of_ofRatio? hf (by simp only [Nat.pow_eq]; positivity) h

/-- A quotient by a divisor of at least one fits. -/
theorem Fits.div (hf : 0 < f.precision) (hx : x.Fits) (hy : 2 ^ f.scale ≤ y.units) :
    (x.div y).Fits := by
  have hpos : 0 < y.units := lt_of_lt_of_le (by positivity) hy
  have hle : (x.div y).units ≤ x.units :=
    Format.round_le hf hpos hx.isExact (Nat.mul_le_mul_left _ hy)
  exact ⟨hle.trans hx.le_greatest, Format.isExact_round hf hpos⟩

/-- The magnitude of the number nearest to an integer. -/
theorem units_ofInt (i : Int) :
    (ofInt i : Binary f).units = min (f.round (i.natAbs * 2 ^ f.scale) 1) f.greatest := by
  unfold ofInt ofRatio?
  dsimp only [Nat.pow_eq]
  split
  · next h => exact (Nat.min_eq_left h).symm
  · next h => exact (Nat.min_eq_right (Nat.le_of_not_le h)).symm

/-- The number nearest to an integer fits. -/
theorem fits_ofInt (hf : 0 < f.precision) (hgreatest : f.IsExact f.greatest) (i : Int) :
    (ofInt i : Binary f).Fits := by
  refine ⟨?_, ?_⟩
  · rw [units_ofInt]
    exact Nat.min_le_right _ _
  · rw [units_ofInt]
    rcases Nat.le_total (f.round (i.natAbs * 2 ^ f.scale) 1) f.greatest with h | h
    · rw [Nat.min_eq_left h]
      exact Format.isExact_round hf Nat.one_pos
    · rw [Nat.min_eq_right h]
      exact hgreatest

end Binary

end Flowgraph
