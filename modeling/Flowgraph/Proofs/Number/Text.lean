import Flowgraph.Json.Writer
import Flowgraph.Proofs.Number.Literal
import Flowgraph.Proofs.Number.Shortest

/-!
# Reading back numbers

The text of a number of 64 bits has the digits of its shortest decimal, and the reader of JSON text
gathers them all (`Tree.reads_render`).  What it makes of them in two roundings need not be the number
again, but it is always a number: the shortest decimal is never beyond that of the greatest number, and
no decimal up to there gets too large on the way (`Number.isSome_scale?`).  So the text of every number
that fits is read, an integer as what it is and a binary number as one that fits (`Number.reread`,
`Number.readValue_writeNumber`).
-/

namespace Flowgraph

/-! ### Scaling -/

namespace Number

theorem precision_pos : 0 < Format.double.precision := by decide

/-- The greatest number is exact. -/
theorem isExact_greatest : Format.double.IsExact Format.double.greatest := by
  obtain ⟨-, t, -, ht, -⟩ := Binary.greatest_spec
  rw [ht]
  exact Format.isExact_mul_pow precision_pos (by decide) t

/-- The magnitude of the number nearest to an integer is in the order of the integers. -/
theorem units_ofInt_mono {a b : Nat} (h : a ≤ b) :
    (Binary.ofInt a : Double).units ≤ (Binary.ofInt b : Double).units := by
  rw [Binary.units_ofInt, Binary.units_ofInt]
  exact min_le_min_right _ (Format.round_mono precision_pos Nat.one_pos (Nat.mul_le_mul_right _ h))

theorem units_powerOfTen_mono {m n : Nat} (h : m ≤ n) :
    (powerOfTen m).units ≤ (powerOfTen n).units :=
  units_ofInt_mono (Nat.pow_le_pow_right (by decide) h)

/-- The greatest integer of seventeen digits that a power of ten does not take beyond the largest
decimal. -/
def mostFor (n : Nat) : Nat := min (10 ^ 17) (Binary.largest / 10 ^ n)

/-- The magnitude of a product, rounded. -/
def productUnits (x y : Double) : Nat :=
  Format.double.round (x.units * y.units * Nat.pow 2 Format.double.scale)
    (Nat.pow 2 (2 * Format.double.scale))

/-- What the bounds below rest on, evaluated together: the products at the powers of ten from 290 on,
and the least and the greatest number that is scaled. -/
theorem evaluated_bounds :
    (∀ k : Nat, k < 19 →
        productUnits (Binary.ofInt (mostFor (290 + k))) (powerOfTen (290 + k))
          ≤ Format.double.greatest)
      ∧ mostFor (290 + 0) = 10 ^ 17
      ∧ Binary.largest < 10 ^ (scaleStep + 1)
      ∧ 2 ^ Format.double.scale ≤ (powerOfTen 0).units
      ∧ (Binary.ofInt (0 : Nat) : Double).isZero = true := by
  decide +kernel

/-- **What is largest for its power of ten does not get too large**, with the integer, the power and
their product rounded. -/
theorem productUnits_mostFor_le {k : Nat} (hk : k < 19) :
    productUnits (Binary.ofInt (mostFor (290 + k))) (powerOfTen (290 + k))
      ≤ Format.double.greatest :=
  evaluated_bounds.1 k hk

theorem productUnits_mono {x x' y y' : Double} (hx : x.units ≤ x'.units) (hy : y.units ≤ y'.units) :
    productUnits x y ≤ productUnits x' y' :=
  Format.round_mono precision_pos (by simp only [Nat.pow_eq]; positivity)
    (Nat.mul_le_mul_right _ (Nat.mul_le_mul hx hy))

/-- **No decimal of seventeen digits up to the largest gets too large** when it is read. -/
theorem isSome_scale? {v n : Nat} (hv : v ≤ 10 ^ 17) (h : v * 10 ^ n ≤ Binary.largest) :
    (scale? (Binary.ofInt v) n).isSome := by
  obtain ⟨-, hmost, hlarge, -, hnone⟩ := evaluated_bounds
  change (if (Binary.ofInt v : Double).isZero then some (Binary.ofInt v)
    else if n ≤ scaleStep then (Binary.ofInt v).mul? (powerOfTen n) else none).isSome = true
  split
  · rfl
  next hzero =>
  have hpos : 0 < v := by
    refine Nat.pos_of_ne_zero ?_
    rintro rfl
    exact hzero hnone
  have hn : n ≤ scaleStep := by
    by_contra hlt
    have hpow : 10 ^ (scaleStep + 1) ≤ 10 ^ n := Nat.pow_le_pow_right (by decide) (by omega)
    exact absurd (hlarge.trans_le (hpow.trans (Nat.le_mul_of_pos_left _ hpos))) (by omega)
  rw [if_pos hn]
  have hle : productUnits (Binary.ofInt v) (powerOfTen n) ≤ Format.double.greatest := by
    -- up to the power 290 any seventeen digits fit; beyond it the largest number bounds them
    rcases Nat.le_total n 290 with hsmall | hgreat
    · exact (productUnits_mono (units_ofInt_mono (hv.trans_eq hmost.symm))
        (units_powerOfTen_mono hsmall)).trans (productUnits_mostFor_le (k := 0) (by decide))
    · obtain ⟨k, rfl⟩ := Nat.exists_eq_add_of_le hgreat
      have hk : k < 19 := by
        rw [scaleStep] at hn
        omega
      refine (productUnits_mono (units_ofInt_mono ?_) (Nat.le_refl _)).trans
        (productUnits_mostFor_le hk)
      exact Nat.le_min.mpr ⟨hv, (Nat.le_div_iff_mul_le (by positivity)).mpr h⟩
  rw [Binary.mul?, Binary.ofRatio?]
  change (if productUnits (Binary.ofInt v) (powerOfTen n) ≤ Format.double.greatest
    then some _ else none).isSome = true
  rw [if_pos hle]
  rfl

/-! ### What is read fits -/

/-- The number nearest to an integer fits. -/
theorem fits_ofInt (i : Int) : (Binary.ofInt i : Double).Fits :=
  Binary.fits_ofInt precision_pos isExact_greatest i

/-- A power of ten is at least one. -/
theorem pow_scale_le_powerOfTen (n : Nat) : 2 ^ Format.double.scale ≤ (powerOfTen n).units := by
  obtain ⟨-, -, -, hone, -⟩ := evaluated_bounds
  exact hone.trans (units_powerOfTen_mono (Nat.zero_le n))

theorem fits_scaleDown {x : Double} (hx : x.Fits) (n : Nat) : (scaleDown x n).Fits := by
  induction n using Nat.strongRecOn generalizing x with
  | ind n ih =>
    rw [scaleDown]
    split
    · exact hx.div precision_pos (pow_scale_le_powerOfTen _)
    split
    · exact hx
    · next hlong _ =>
      refine ih (n - scaleStep) ?_ (hx.div precision_pos (pow_scale_le_powerOfTen _))
      rw [scaleStep] at hlong ⊢
      omega

theorem fits_scale? {x y : Double} {e : Int} (hx : x.Fits) (h : scale? x e = some y) : y.Fits := by
  cases e with
  | ofNat n =>
    rw [scale?] at h
    split at h
    · obtain rfl := Option.some.inj h
      exact hx
    split at h
    · exact Binary.fits_of_mul? precision_pos h
    · exact nomatch h
  | negSucc n =>
    rw [scale?] at h
    obtain rfl := Option.some.inj h
    exact fits_scaleDown hx _

/-- **A number fits 64 bits.** -/
def Fits : Number → Prop
  | .int i => -2 ^ 63 ≤ i ∧ i < 2 ^ 64
  | .real x => x.Fits

/-- What is read from digits is a binary number that fits. -/
theorem exists_real_of_ofDigits? {negative : Bool} {v : Nat} {e : Int} {n : Number}
    (h : ofDigits? negative v e = some n) : ∃ x : Double, x.Fits ∧ n = .real x := by
  unfold ofDigits? at h
  obtain ⟨y, hy, rfl⟩ := Option.map_eq_some_iff.mp h
  exact ⟨_, (fits_scale? (fits_ofInt v) hy).setSign negative, rfl⟩

theorem fits_of_ofDigits? {negative : Bool} {v : Nat} {e : Int} {n : Number}
    (h : ofDigits? negative v e = some n) : n.Fits := by
  obtain ⟨x, hx, rfl⟩ := exists_real_of_ofDigits? h
  exact hx

/-- A decimal of seventeen digits is read if it is not beyond the largest, and always if its exponent is
negative. -/
theorem isSome_ofDigits? {negative : Bool} {v : Nat} {e : Int}
    (h : ∀ n : Nat, e = n → v ≤ 10 ^ 17 ∧ v * 10 ^ n ≤ Binary.largest) :
    (ofDigits? negative v e).isSome := by
  unfold ofDigits?
  rw [Option.isSome_map]
  cases e with
  | ofNat n =>
    obtain ⟨hv, hle⟩ := h n rfl
    exact isSome_scale? hv hle
  | negSucc n => rfl

end Number

/-! ### The text of a decimal -/

namespace Tree

/-- **A literal is read as these digits with this power of ten**, whatever stands behind it. -/
def Reads (cs : List Char) (v : Nat) (e : Int) : Prop :=
  ∀ (negative : Bool) (rest : List Char), EndsNumber rest →
    readNumber negative (cs ++ rest) = some (finishNumber (Number.ofDigits? negative v e) rest)

variable {whole fraction : List Char} {n : Nat} {down : Bool}

/-- A literal with a point. -/
theorem reads_point (hwhole : IsWhole whole) (hfraction : ∀ c ∈ fraction, c.isDigit = true)
    (hne : fraction ≠ []) (hfits : Nat.ofDigitChars 10 (whole ++ fraction) 0 < Number.wordLimit) :
    Reads (whole ++ '.' :: fraction) (Nat.ofDigitChars 10 (whole ++ fraction) 0)
      (-fraction.length) := by
  intro negative rest hrest
  rw [List.append_assoc, List.cons_append, readNumber_point hwhole hfraction hne hfits
    hrest.startsWithDigit, readScale_end hrest]
  rfl

/-- A literal with an exponent behind its whole part. -/
theorem reads_exponent (hwhole : IsWhole whole)
    (hfits : Nat.ofDigitChars 10 whole 0 < Number.wordLimit) :
    Reads (whole ++ 'e' :: (if down then '-' else '+') :: Nat.toDigits 10 n)
      (Nat.ofDigitChars 10 whole 0) (if down then -(n : Int) else n) := by
  intro negative rest hrest
  rw [List.append_assoc, List.cons_append, List.cons_append,
    readNumber_whole hwhole hfits rfl (by simp), readScale_exponent hrest, Int.zero_add]

/-- A literal with a point and an exponent. -/
theorem reads_point_exponent (hwhole : IsWhole whole) (hfraction : ∀ c ∈ fraction, c.isDigit = true)
    (hne : fraction ≠ []) (hfits : Nat.ofDigitChars 10 (whole ++ fraction) 0 < Number.wordLimit) :
    Reads (whole ++ '.' :: (fraction ++ 'e' :: (if down then '-' else '+') :: Nat.toDigits 10 n))
      (Nat.ofDigitChars 10 (whole ++ fraction) 0)
      (-fraction.length + if down then -(n : Int) else n) := by
  intro negative rest hrest
  rw [List.append_assoc, List.cons_append, List.append_assoc, List.cons_append, List.cons_append,
    readNumber_point hwhole hfraction hne hfits rfl, readScale_exponent hrest]

end Tree

namespace Layout

variable {m : Nat} {e p : Int}

/-- The text of the digits of a number. -/
theorem toList_toString (m : Nat) : (toString m).toList = Nat.toDigits 10 m := by
  rw [Nat.toString_eq_ofList_toDigits, String.toList_ofList]

theorem length_toString (m : Nat) : (toString m).length = (Nat.toDigits 10 m).length := by
  rw [← String.length_toList, toList_toString]

theorem toList_zeros (k : Nat) : (zeros k).toList = List.replicate k '0' := String.toList_ofList

/-- A point stands in its place up to sixteen digits before it. -/
theorem le_of_isPositional (h : data.isPositional p = true) : p ≤ 16 := by
  simp only [isPositional, data, Option.all_some, Bool.and_eq_true, decide_eq_true_eq] at h
  exact h.2

/-- Zero has one digit on either side of the point. -/
theorem toList_render_zero (e : Int) : (data.render ⟨0, e⟩).toList = ['0'] ++ '.' :: ['0'] := by
  rw [render, if_pos rfl]
  rfl

/-- A decimal below one: zeros stand between the point and its digits. -/
theorem toList_render_below (hm : m ≠ 0) (hp : e + (Nat.toDigits 10 m).length = p)
    (hplace : data.isPositional p = true) (hle : p ≤ 0) :
    (data.render ⟨m, e⟩).toList
      = ['0'] ++ '.' :: (List.replicate (-p).toNat '0' ++ Nat.toDigits 10 m) := by
  simp only [render, if_neg hm, length_toString, hp, if_pos hplace, if_pos hle, String.toList_append,
    toList_toString, toList_zeros]
  rfl

/-- A whole decimal: zeros stand between its digits and the point. -/
theorem toList_render_above (hm : m ≠ 0) (hp : e + (Nat.toDigits 10 m).length = p)
    (hplace : data.isPositional p = true) (hpos : ¬ p ≤ 0) (hle : (Nat.toDigits 10 m).length ≤ p.toNat) :
    (data.render ⟨m, e⟩).toList
      = Nat.toDigits 10 m ++ List.replicate (p.toNat - (Nat.toDigits 10 m).length) '0'
        ++ '.' :: ['0'] := by
  simp only [render, if_neg hm, length_toString, hp, if_pos hplace, if_neg hpos, if_pos hle,
    String.toList_append, toList_toString, toList_zeros]
  rfl

/-- A decimal with the point among its digits. -/
theorem toList_render_within (hm : m ≠ 0) (hp : e + (Nat.toDigits 10 m).length = p)
    (hplace : data.isPositional p = true) (hpos : ¬ p ≤ 0)
    (hlt : ¬ (Nat.toDigits 10 m).length ≤ p.toNat) :
    (data.render ⟨m, e⟩).toList
      = (Nat.toDigits 10 m).take p.toNat ++ '.' :: (Nat.toDigits 10 m).drop p.toNat := by
  simp only [render, if_neg hm, length_toString, hp, if_pos hplace, if_neg hpos, if_neg hlt,
    String.toList_append]
  simp

/-- A decimal with an exponent: the point stands behind its first digit, if there are more. -/
theorem toList_render_exponent (hm : m ≠ 0) (hp : e + (Nat.toDigits 10 m).length = p)
    (hplace : ¬ data.isPositional p = true) :
    (data.render ⟨m, e⟩).toList
      = (Nat.toDigits 10 m).take 1
        ++ ((if (Nat.toDigits 10 m).drop 1 = [] then [] else '.' :: (Nat.toDigits 10 m).drop 1)
        ++ 'e' :: (if p - 1 < 0 then '-' else '+') :: Nat.toDigits 10 (p - 1).natAbs) := by
  have hfirst : ((toString m).take 1).toString.toList = (Nat.toDigits 10 m).take 1 := by simp
  have hothers : ((toString m).drop 1).toString.toList = (Nat.toDigits 10 m).drop 1 := by simp
  simp only [render, if_neg hm, length_toString, hp, if_neg hplace]
  generalize ((toString m).take 1).toString = first at hfirst ⊢
  generalize ((toString m).drop 1).toString = others at hothers ⊢
  have hempty : others.isEmpty = true ↔ (Nat.toDigits 10 m).drop 1 = [] := by
    rw [String.isEmpty_iff, ← String.toList_eq_nil_iff, hothers]
  simp only [String.toList_append, hfirst, toList_toString, hempty, apply_ite String.toList, hothers]
  split <;> split <;> simp

end Layout

namespace Tree

variable {m : Nat} {e p : Int}

/-- Zero is read with a negative power of ten. -/
theorem reads_render_zero (e : Int) :
    ∃ v e', Reads (Layout.data.render ⟨0, e⟩).toList v e' ∧ e' < 0 := by
  rw [Layout.toList_render_zero]
  exact ⟨_, _, reads_point isWhole_zero isWhole_zero.isDigit (by decide) (by decide), by decide⟩

/-- A decimal below one is read with a negative power of ten. -/
theorem reads_render_below (hm : m ≠ 0) (hle : m ≤ 10 ^ 17) (hp : e + (Nat.toDigits 10 m).length = p)
    (hplace : Layout.data.isPositional p = true) (hneg : p ≤ 0) :
    ∃ v e', Reads (Layout.data.render ⟨m, e⟩).toList v e' ∧ e' < 0 := by
  have hword : 10 ^ 17 < Number.wordLimit := by decide
  have hcount : 0 < (Nat.toDigits 10 m).length := Nat.length_toDigits_pos
  rw [Layout.toList_render_below hm hp hplace hneg]
  -- the zeros before the digits do not change what the digits stand for
  have hsame : Nat.ofDigitChars 10
      (['0'] ++ (List.replicate (-p).toNat '0' ++ Nat.toDigits 10 m)) 0 = m := by
    rw [Nat.ofDigitChars_append, Nat.ofDigitChars_append, Nat.ofDigitChars_replicate_zero]
    exact Nat.ofDigitChars_ten_toDigits
  refine ⟨_, _, reads_point isWhole_zero (fun c hc => ?_) ?_ (by omega), ?_⟩
  · rcases List.mem_append.mp hc with hc | hc
    · rw [List.eq_of_mem_replicate hc]
      decide
    · exact (isWhole_toDigits m).isDigit c hc
  · exact fun h => Nat.toDigits_ne_nil (List.append_eq_nil_iff.mp h).2
  · rw [List.length_append]
    omega

/-- A whole decimal is read with a negative power of ten, as there is a zero behind its point. -/
theorem reads_render_above (hm : m ≠ 0) (hp : e + (Nat.toDigits 10 m).length = p)
    (hplace : Layout.data.isPositional p = true) (hpos : ¬ p ≤ 0)
    (hshort : (Nat.toDigits 10 m).length ≤ p.toNat) :
    ∃ v e', Reads (Layout.data.render ⟨m, e⟩).toList v e' ∧ e' < 0 := by
  have hsixteen := Layout.le_of_isPositional hplace
  rw [Layout.toList_render_above hm hp hplace hpos hshort]
  refine ⟨_, _, reads_point (IsWhole.append_zeros hm _) isWhole_zero.isDigit (by decide) ?_,
    by decide⟩
  -- with the zeros there are at most sixteen digits before the point
  have hlt : m < 10 ^ (Nat.toDigits 10 m).length :=
    (Nat.length_toDigits_le_iff (by decide) Nat.length_toDigits_pos).mp (Nat.le_refl _)
  have hmul : 10 ^ (p.toNat - (Nat.toDigits 10 m).length) * m < 10 ^ 16 :=
    calc 10 ^ (p.toNat - (Nat.toDigits 10 m).length) * m
        < 10 ^ (p.toNat - (Nat.toDigits 10 m).length) * 10 ^ (Nat.toDigits 10 m).length :=
          Nat.mul_lt_mul_of_pos_left hlt (by positivity)
      _ = 10 ^ p.toNat := by rw [← Nat.pow_add, Nat.sub_add_cancel hshort]
      _ ≤ 10 ^ 16 := Nat.pow_le_pow_right (by decide) (by omega)
  have hword : 10 ^ 17 < Number.wordLimit := by decide
  rw [Nat.ofDigitChars_append, Nat.ofDigitChars_append, Nat.ofDigitChars_ten_toDigits,
    Nat.ofDigitChars_replicate_zero]
  show 10 * (10 ^ (p.toNat - (Nat.toDigits 10 m).length) * m) + 0 < Number.wordLimit
  omega

/-- A decimal with the point among its digits is read with a negative power of ten. -/
theorem reads_render_within (hm : m ≠ 0) (hle : m ≤ 10 ^ 17)
    (hp : e + (Nat.toDigits 10 m).length = p) (hplace : Layout.data.isPositional p = true)
    (hpos : ¬ p ≤ 0) (hlong : ¬ (Nat.toDigits 10 m).length ≤ p.toNat) :
    ∃ v e', Reads (Layout.data.render ⟨m, e⟩).toList v e' ∧ e' < 0 := by
  have hword : 10 ^ 17 < Number.wordLimit := by decide
  rw [Layout.toList_render_within hm hp hplace hpos hlong]
  -- the digits on the two sides of the point are the digits of the decimal
  have hparts : (Nat.toDigits 10 m).take p.toNat ++ (Nat.toDigits 10 m).drop p.toNat
      = Nat.toDigits 10 m := List.take_append_drop ..
  refine ⟨_, _, reads_point (isWhole_take hm (by omega))
    (fun c hc => (isWhole_toDigits m).isDigit c (List.mem_of_mem_drop hc)) ?_
    (by rw [hparts, Nat.ofDigitChars_ten_toDigits]; omega), ?_⟩
  · rw [Ne, List.drop_eq_nil_iff]
    exact hlong
  · rw [List.length_drop]
    omega

/-- **A decimal with an exponent is read as what it is.** -/
theorem reads_render_exponent (hm : m ≠ 0) (hle : m ≤ 10 ^ 17)
    (hp : e + (Nat.toDigits 10 m).length = p) (hplace : ¬ Layout.data.isPositional p = true) :
    Reads (Layout.data.render ⟨m, e⟩).toList m e := by
  have hword : 10 ^ 17 < Number.wordLimit := by decide
  have hcount : 0 < (Nat.toDigits 10 m).length := Nat.length_toDigits_pos
  have hparts : (Nat.toDigits 10 m).take 1 ++ (Nat.toDigits 10 m).drop 1 = Nat.toDigits 10 m :=
    List.take_append_drop ..
  -- the sign and the magnitude that are written make up the power of ten
  have hpower : (if decide (p - 1 < 0) then -((p - 1).natAbs : Int) else (p - 1).natAbs) = p - 1 := by
    split
    · next h =>
      rw [decide_eq_true_eq] at h
      omega
    · next h =>
      rw [decide_eq_true_eq] at h
      omega
  have hsign : (if p - 1 < 0 then '-' else '+') = if decide (p - 1 < 0) then '-' else '+' := by
    simp
  rw [Layout.toList_render_exponent hm hp hplace, hsign]
  split
  · next hone =>
    -- there is one digit, and no point
    rw [hone, List.append_nil] at hparts
    have hlength := congrArg List.length hone
    rw [List.length_drop, List.length_nil] at hlength
    have hreads := @reads_exponent _ (p - 1).natAbs (decide (p - 1 < 0))
      (isWhole_take hm Nat.one_pos) (by rw [hparts, Nat.ofDigitChars_ten_toDigits]; omega)
    rw [hpower, hparts, Nat.ofDigitChars_ten_toDigits] at hreads
    obtain rfl : p - 1 = e := by omega
    rw [hparts]
    exact hreads
  · next hmore =>
    -- the digits behind the point are taken off the power of ten again
    have hreads := @reads_point_exponent _ _ (p - 1).natAbs (decide (p - 1 < 0))
      (isWhole_take hm Nat.one_pos)
      (fun c hc => (isWhole_toDigits m).isDigit c (List.mem_of_mem_drop hc)) hmore
      (by rw [hparts, Nat.ofDigitChars_ten_toDigits]; omega)
    rw [hpower, hparts, Nat.ofDigitChars_ten_toDigits, List.length_drop] at hreads
    have hexponent : -((Nat.toDigits 10 m).length - 1 : Nat) + (p - 1) = e := by omega
    rw [hexponent] at hreads
    exact hreads

/-- **The text of a decimal of seventeen digits is read as the decimal**, or else with a negative power
of ten. -/
theorem reads_render {d : Decimal} (hd : d.digits ≤ 10 ^ 17) :
    ∃ v e, Reads (Layout.data.render d).toList v e ∧ ((v = d.digits ∧ e = d.exponent) ∨ e < 0) := by
  obtain ⟨m, e⟩ := d
  -- each layout with a point in its place reads with a negative power of ten
  suffices hcases : (∃ v e', Reads (Layout.data.render ⟨m, e⟩).toList v e' ∧ e' < 0) ∨
      Reads (Layout.data.render ⟨m, e⟩).toList m e by
    rcases hcases with ⟨v, e', hreads, hneg⟩ | hreads
    · exact ⟨v, e', hreads, .inr hneg⟩
    · exact ⟨m, e, hreads, .inl ⟨rfl, rfl⟩⟩
  by_cases hm : m = 0
  · exact .inl (hm ▸ reads_render_zero e)
  by_cases hplace : Layout.data.isPositional (e + (Nat.toDigits 10 m).length) = true
  · left
    by_cases hneg : e + (Nat.toDigits 10 m).length ≤ 0
    · exact reads_render_below hm hd rfl hplace hneg
    by_cases hshort : (Nat.toDigits 10 m).length ≤ (e + (Nat.toDigits 10 m).length).toNat
    · exact reads_render_above hm rfl hplace hneg hshort
    · exact reads_render_within hm hd rfl hplace hneg hshort
  · exact .inr (reads_render_exponent hm hd rfl hplace)

/-- The text of a decimal begins with a digit. -/
theorem startsWithDigit_of_reads {cs rest : List Char} {v : Nat} {e : Int} (h : Reads cs v e)
    (hrest : EndsNumber rest) : startsWithDigit (cs ++ rest) = true := by
  by_contra hnot
  have hread := h false rest hrest
  rw [readNumber, if_pos (by simpa using hnot)] at hread
  cases hread

end Tree

/-! ### Numbers -/

namespace Number

open Flowgraph.Tree

/-- **The text of a binary number is read as a binary number**, whatever stands behind it. -/
theorem exists_readNumber {x : Double} (hx : x.Fits) :
    ∃ y : Double, y.Fits ∧ ∀ rest, EndsNumber rest →
      startsWithDigit ((Layout.data.render x.shortest).toList ++ rest) = true ∧
        readNumber x.negative ((Layout.data.render x.shortest).toList ++ rest)
          = some (.num (.real y), rest) := by
  have hdigits : x.shortest.digits ≤ 10 ^ 17 := by
    by_cases hzero : x.units = 0
    · rw [Binary.shortest, if_pos hzero]
      exact Nat.zero_le _
    · exact (Binary.shortest_spec hx hzero).2
  obtain ⟨v, e, hreads, hvalue⟩ := reads_render hdigits
  -- no such decimal overflows: it is below the largest number, or its power of ten is negative
  have hsome : (ofDigits? x.negative v e).isSome := by
    refine isSome_ofDigits? fun n hn => ?_
    rcases hvalue with ⟨rfl, he⟩ | hneg
    · refine ⟨hdigits, ?_⟩
      have hle := Binary.shortest_le_largest hx
      rw [Decimal.value, ← he, hn, zpow_natCast] at hle
      exact_mod_cast hle
    · omega
  obtain ⟨n, hn⟩ := Option.isSome_iff_exists.mp hsome
  obtain ⟨y, hy, rfl⟩ := exists_real_of_ofDigits? hn
  refine ⟨y, hy, fun rest hrest => ⟨startsWithDigit_of_reads hreads hrest, ?_⟩⟩
  rw [hreads _ _ hrest, hn, finishNumber]

/-- **What the text of a number is read as.**  An integer stays what it is. -/
def reread : Number → Number
  | .int i => .int i
  | .real x =>
    match readNumber x.negative (Layout.data.render x.shortest).toList with
    | some (.num n, _) => n
    | _ => .real x

theorem endsNumber_nil : EndsNumber [] := fun _ h => nomatch h

/-- What a binary number is read as is binary, fits, and is what is read whatever stands behind the
text. -/
theorem exists_reread_eq {x : Double} (hx : x.Fits) :
    ∃ y : Double, y.Fits ∧ reread (.real x) = .real y ∧ ∀ rest, EndsNumber rest →
      startsWithDigit ((Layout.data.render x.shortest).toList ++ rest) = true ∧
        readNumber x.negative ((Layout.data.render x.shortest).toList ++ rest)
          = some (.num (.real y), rest) := by
  obtain ⟨y, hy, hread⟩ := exists_readNumber hx
  -- `reread` is what is read with nothing behind the text
  have halone := (hread [] endsNumber_nil).2
  rw [List.append_nil] at halone
  exact ⟨y, hy, by rw [reread, halone], hread⟩

/-- **The text of a binary number is read as `reread` says**, whatever stands behind it. -/
theorem readNumber_render {x : Double} (hx : x.Fits) {rest : List Char} (hrest : EndsNumber rest) :
    startsWithDigit ((Layout.data.render x.shortest).toList ++ rest) = true ∧
      readNumber x.negative ((Layout.data.render x.shortest).toList ++ rest)
        = some (.num (reread (.real x)), rest) := by
  obtain ⟨y, -, hreread, hread⟩ := exists_reread_eq hx
  rw [hreread]
  exact hread rest hrest

/-- The text of an integer is read as the integer. -/
theorem readNumber_toDigits {m : Nat} (hm : m < wordLimit) {negative : Bool} {rest : List Char}
    (hrest : EndsNumber rest) :
    readNumber negative (Nat.toDigits 10 m ++ rest)
      = some (finishNumber (ofWhole? negative ⟨m, 0, false⟩) rest) := by
  have hvalue : Nat.ofDigitChars 10 (Nat.toDigits 10 m) 0 = m := Nat.ofDigitChars_ten_toDigits
  have hpoint : rest.head? ≠ some '.' := fun h => (hrest '.' h).2.1 rfl
  have hread := @readNumber_whole rest _ negative (isWhole_toDigits m) (by rw [hvalue]; exact hm)
    hrest.startsWithDigit hpoint
  rw [hvalue, readScale_end hrest, if_pos rfl] at hread
  exact hread

theorem wordLimit_eq : wordLimit = 18446744073709551616 := rfl

/-- The digits of an integer that fits and its sign make up the integer. -/
theorem ofWhole?_natAbs {i : Int} (hi : (Number.int i).Fits) :
    ofWhole? (decide (i < 0)) ⟨i.natAbs, 0, false⟩ = some (.int i) := by
  obtain ⟨hlow, hhigh⟩ := hi
  unfold ofWhole?
  by_cases hneg : i < 0
  · have hle : i.natAbs ≤ Nat.pow 2 63 := by
      rw [Nat.pow_eq]
      omega
    simp only [decide_eq_true hneg]
    rw [if_neg Bool.false_ne_true, if_neg (by decide),
      if_pos (by simp only [Bool.and_eq_true, decide_eq_true_eq]; exact ⟨by omega, hle⟩)]
    congr 2
    omega
  · simp only [decide_eq_false hneg]
    rw [if_neg Bool.false_ne_true, if_pos (by decide)]
    congr 2
    omega

/-- **The text of an integer that fits is read as the integer**, with its sign read before. -/
theorem readNumber_natAbs {i : Int} (hi : (Number.int i).Fits) {rest : List Char}
    (hrest : EndsNumber rest) :
    readNumber (decide (i < 0)) (Nat.toDigits 10 i.natAbs ++ rest) = some (.num (.int i), rest) := by
  have hword : i.natAbs < wordLimit := by
    obtain ⟨hlow, hhigh⟩ := hi
    rw [wordLimit_eq]
    omega
  rw [readNumber_toDigits hword hrest, ofWhole?_natAbs hi]
  rfl

end Number

namespace Tree

/-- A value that begins with a digit is a number. -/
theorem readValue_digit {cs rest : List Char} {t : Tree} (h : startsWithDigit cs = true)
    (hread : readNumber false cs = some (t, rest)) (fuel depth : Nat) :
    readValue (fuel + 1) depth cs = (t, some rest) := by
  cases cs with
  | nil => cases h
  | cons c cs =>
    have hdigit : c.isDigit = true := h
    have hne : ∀ d : Char, d.isDigit = false → c ≠ d := fun d hd heq => by
      rw [heq, hd] at hdigit
      cases hdigit
    have hgap : isGap c = false := by
      simp [isGap, hne ' ' rfl, hne '\n' rfl, hne '\t' rfl, hne '\r' rfl]
    have hskip : skipGap (c :: cs) = c :: cs := by
      rw [skipGap, List.dropWhile_cons, hgap]
      rfl
    -- a digit begins nothing but a number, so the other eight branches are out
    rw [readValue, hskip]
    split
    · next heq => cases heq
    · next heq => exact absurd (List.cons.inj heq).1 (hne _ rfl)
    · next heq => exact absurd (List.cons.inj heq).1 (hne _ rfl)
    · next heq => exact absurd (List.cons.inj heq).1 (hne _ rfl)
    · next heq => exact absurd (List.cons.inj heq).1 (hne _ rfl)
    · next heq => exact absurd (List.cons.inj heq).1 (hne _ rfl)
    · next heq => exact absurd (List.cons.inj heq).1 (hne _ rfl)
    · next heq => exact absurd (List.cons.inj heq).1 (hne _ rfl)
    · next heq => rw [← heq, hread]

/-- A value that begins with a sign is a number. -/
theorem readValue_minus {cs rest : List Char} {t : Tree}
    (hread : readNumber true cs = some (t, rest)) (fuel depth : Nat) :
    readValue (fuel + 1) depth ('-' :: cs) = (t, some rest) := by
  have hskip : skipGap ('-' :: cs) = '-' :: cs := rfl
  simp only [readValue, hskip, hread]

end Tree

/-- The text of an integer. -/
theorem Number.toList_writeNumber_int (i : Int) :
    (Json.writeNumber (.int i)).toList
      = if i < 0 then '-' :: Nat.toDigits 10 i.natAbs else Nat.toDigits 10 i.natAbs := by
  cases i with
  | ofNat m =>
    rw [if_neg (by simp)]
    exact Layout.toList_toString m
  | negSucc m =>
    rw [if_pos (Int.negSucc_lt_zero m)]
    show ("-" ++ toString (m + 1)).toList = _
    rw [String.toList_append, Layout.toList_toString]
    rfl

/-- The text of a binary number. -/
theorem Number.toList_writeNumber_real (x : Double) :
    (Json.writeNumber (.real x)).toList
      = if x.negative then '-' :: (Layout.data.render x.shortest).toList
        else (Layout.data.render x.shortest).toList := by
  show (Layout.data.write x).toList = _
  rw [Layout.write, String.toList_append]
  cases x.negative <;> rfl

open Flowgraph.Tree in
/-- **The text of a number that fits is read as `reread` says.** -/
theorem Number.readValue_writeNumber {n : Number} (hn : n.Fits) {rest : List Char}
    (hrest : EndsNumber rest) (fuel depth : Nat) :
    readValue (fuel + 1) depth ((Json.writeNumber n).toList ++ rest)
      = (.num n.reread, some rest) := by
  cases n with
  | int i =>
    -- the sign is read first, and then the digits of the absolute value
    have hread := readNumber_natAbs hn hrest
    rw [toList_writeNumber_int]
    split
    · next hneg =>
      rw [decide_eq_true hneg] at hread
      exact readValue_minus hread fuel depth
    · next hneg =>
      rw [decide_eq_false hneg] at hread
      exact readValue_digit ((isWhole_toDigits _).startsWithDigit rest) hread fuel depth
  | real x =>
    obtain ⟨hdigit, hread⟩ := readNumber_render hn hrest
    rw [toList_writeNumber_real]
    split
    · next hsign =>
      rw [hsign] at hread
      exact readValue_minus hread fuel depth
    · next hsign =>
      rw [Bool.not_eq_true] at hsign
      rw [hsign] at hread
      exact readValue_digit hdigit hread fuel depth

end Flowgraph
