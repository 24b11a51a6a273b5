import Mathlib.Data.List.Basic
import Flowgraph.Json.Reader
import Flowgraph.Number.Layout

/-!
# Literals of numbers

The reader of JSON text takes a number apart into its whole part, its fraction and its exponent, and
gathers the digits of the first two.  Here is what it makes of each form of a literal, as long as the
digits fit 64 bits: `Tree.readNumber_whole` without a point, `Tree.readNumber_point` with one, and
`Tree.readScale_end` and `Tree.readScale_exponent` for what stands behind.
-/

namespace Flowgraph

/-! ### Digits -/

/-- Reading more digits makes no number smaller. -/
theorem le_ofDigitChars (n : Nat) (ds : List Char) : n ≤ Nat.ofDigitChars 10 ds n := by
  induction ds generalizing n with
  | nil => exact Nat.le_refl n
  | cons c rest ih =>
    rw [Nat.ofDigitChars_cons]
    exact Nat.le_trans (by omega) (ih _)

/-- The digits of a number that is not zero do not begin with a zero. -/
theorem head?_toDigits_ne {n : Nat} (hn : n ≠ 0) : (Nat.toDigits 10 n).head? ≠ some '0' := by
  induction n using Nat.strongRecOn with
  | ind n ih =>
    rcases Nat.lt_or_ge n 10 with hlt | hge
    · have hall : ∀ n < 10, n ≠ 0 → [Nat.digitChar n].head? ≠ some '0' := by decide
      rw [Nat.toDigits_of_lt_base hlt]
      exact hall n hlt hn
    · rw [Nat.toDigits_of_base_le (by decide) hge, List.head?_append_of_ne_nil _ Nat.toDigits_ne_nil]
      exact ih (n / 10) (by omega) (by omega)

namespace Tree

/-- **Nothing goes on with a number**: what follows is no digit, no point and no exponent. -/
def EndsNumber (rest : List Char) : Prop :=
  ∀ c ∈ rest.head?, c.isDigit = false ∧ c ≠ '.' ∧ c ≠ 'e' ∧ c ≠ 'E'

variable {ds rest : List Char} {push : Number.Digits → Nat → Number.Digits} {d : Number.Digits}

theorem EndsNumber.startsWithDigit (h : EndsNumber rest) : startsWithDigit rest = false := by
  cases rest with
  | nil => rfl
  | cons c rest => exact (h c rfl).1

/-- Digits are taken up to where there are no more. -/
theorem takeDigits_append (hds : ∀ c ∈ ds, c.isDigit = true) (hrest : startsWithDigit rest = false) :
    takeDigits push d (ds ++ rest) = (ds.foldl (fun d c => push d (c.toNat - '0'.toNat)) d, rest) := by
  induction ds generalizing d with
  | nil =>
    cases rest with
    | nil => rfl
    | cons c rest =>
      have hnone : digit? c = none := if_neg (Bool.eq_false_iff.mp hrest)
      rw [List.nil_append, takeDigits, hnone]
      rfl
  | cons c ds ih =>
    have hsome : digit? c = some (c.toNat - '0'.toNat) := if_pos (hds c (List.mem_cons_self ..))
    rw [List.cons_append, takeDigits, hsome]
    exact ih fun c' hc' => hds c' (List.mem_cons_of_mem _ hc')

/-- The value of digits is taken up to where there are no more. -/
theorem takeNat_append (n : Nat) (hds : ∀ c ∈ ds, c.isDigit = true)
    (hrest : startsWithDigit rest = false) :
    takeNat n (ds ++ rest) = (Nat.ofDigitChars 10 ds n, rest) := by
  induction ds generalizing n with
  | nil =>
    cases rest with
    | nil => rfl
    | cons c rest =>
      have hnone : digit? c = none := if_neg (Bool.eq_false_iff.mp hrest)
      rw [List.nil_append, takeNat, hnone]
      rfl
  | cons c ds ih =>
    have hsome : digit? c = some (c.toNat - '0'.toNat) := if_pos (hds c (List.mem_cons_self ..))
    rw [List.cons_append, takeNat, hsome, Nat.ofDigitChars_cons, Nat.mul_comm 10]
    exact ih _ fun c' hc' => hds c' (List.mem_cons_of_mem _ hc')

/-- If a number fits 64 bits with the digits behind, it does so without them. -/
theorem push_lt_of_ofDigitChars {n d : Nat}
    (h : Nat.ofDigitChars 10 ds (10 * n + d) < Number.wordLimit) :
    n * 10 + d < Number.wordLimit := by
  rw [Nat.mul_comm]
  exact Nat.lt_of_le_of_lt (le_ofDigitChars _ ds) h

/-- Digits before the point that fit 64 bits are gathered in the value. -/
theorem foldl_pushWhole {n : Nat} {e : Int} (h : Nat.ofDigitChars 10 ds n < Number.wordLimit) :
    ds.foldl (fun d c => Number.Digits.pushWhole d (c.toNat - '0'.toNat)) ⟨n, e, false⟩
      = ⟨Nat.ofDigitChars 10 ds n, e, false⟩ := by
  induction ds generalizing n with
  | nil => rfl
  | cons c ds ih =>
    rw [Nat.ofDigitChars_cons] at h ⊢
    have hfits := push_lt_of_ofDigitChars h
    have hpush : Number.Digits.pushWhole ⟨n, e, false⟩ (c.toNat - '0'.toNat)
        = ⟨10 * n + (c.toNat - '0'.toNat), e, false⟩ := by
      rw [Number.Digits.pushWhole, if_pos (by simpa using hfits), Nat.mul_comm]
    rw [List.foldl_cons, hpush]
    exact ih h

/-- Digits behind the point that fit 64 bits are gathered in the value, and each shifts it. -/
theorem foldl_pushFraction {n : Nat} {e : Int} (h : Nat.ofDigitChars 10 ds n < Number.wordLimit) :
    ds.foldl (fun d c => Number.Digits.pushFraction d (c.toNat - '0'.toNat)) ⟨n, e, false⟩
      = ⟨Nat.ofDigitChars 10 ds n, e - ds.length, false⟩ := by
  induction ds generalizing n e with
  | nil => simp [Nat.ofDigitChars]
  | cons c ds ih =>
    rw [Nat.ofDigitChars_cons] at h ⊢
    have hfits := push_lt_of_ofDigitChars h
    have hpush : Number.Digits.pushFraction ⟨n, e, false⟩ (c.toNat - '0'.toNat)
        = ⟨10 * n + (c.toNat - '0'.toNat), e - 1, false⟩ := by
      rw [Number.Digits.pushFraction, if_pos (by simpa using hfits), Nat.mul_comm]
    have hexponent : e - (List.length (c :: ds) : Int) = e - 1 - ds.length := by
      rw [List.length_cons]
      omega
    rw [List.foldl_cons, hpush, ih h, hexponent]

/-! ### The whole part and the fraction -/

/-- **The digits of a whole part**: at least one, and none in front that means nothing. -/
structure IsWhole (ds : List Char) : Prop where
  isDigit : ∀ c ∈ ds, c.isDigit = true
  ne_nil : ds ≠ []
  head_ne : ds.head? = some '0' → ds.length = 1

theorem isWhole_zero : IsWhole ['0'] where
  isDigit c hc := by
    rw [List.mem_singleton.mp hc]
    rfl
  ne_nil := by decide
  head_ne _ := rfl

/-- The digits of a number are a whole part. -/
theorem isWhole_toDigits (n : Nat) : IsWhole (Nat.toDigits 10 n) where
  isDigit _ hc := Nat.isDigit_of_mem_toDigits (by decide) (by decide) hc
  ne_nil := Nat.toDigits_ne_nil
  head_ne h := by
    by_cases hn : n = 0
    · subst hn
      rfl
    · exact absurd h (head?_toDigits_ne hn)

/-- The first digits of a number are a whole part. -/
theorem isWhole_take {n k : Nat} (hn : n ≠ 0) (hk : 0 < k) :
    IsWhole ((Nat.toDigits 10 n).take k) := by
  have hne : Nat.toDigits 10 n ≠ [] := Nat.toDigits_ne_nil
  refine ⟨fun c hc => Nat.isDigit_of_mem_toDigits (by decide) (by decide) (List.mem_of_mem_take hc),
    ?_, fun h => ?_⟩
  · rw [Ne, List.take_eq_nil_iff]
    exact not_or.mpr ⟨by omega, hne⟩
  · rw [List.head?_take, if_neg (by omega)] at h
    exact absurd h (head?_toDigits_ne hn)

/-- A whole part with zeros behind it is one as well. -/
theorem IsWhole.append_zeros {n : Nat} (hn : n ≠ 0) (k : Nat) :
    IsWhole (Nat.toDigits 10 n ++ List.replicate k '0') := by
  have hwhole := isWhole_toDigits n
  refine ⟨fun c hc => ?_, ?_, fun h => ?_⟩
  · rcases List.mem_append.mp hc with hc | hc
    · exact hwhole.isDigit c hc
    · rw [List.eq_of_mem_replicate hc]
      decide
  · exact fun h => hwhole.ne_nil (List.append_eq_nil_iff.mp h).1
  · rw [List.head?_append_of_ne_nil _ hwhole.ne_nil] at h
    exact absurd h (head?_toDigits_ne hn)

variable {whole fraction : List Char} {negative : Bool}

theorem IsWhole.startsWithDigit (h : IsWhole whole) (rest : List Char) :
    startsWithDigit (whole ++ rest) = true := by
  cases whole with
  | nil => exact absurd rfl h.ne_nil
  | cons c cs => exact h.isDigit c (List.mem_cons_self ..)

/-- No second digit follows a zero in front. -/
theorem IsWhole.no_leading_zero (h : IsWhole whole) (hrest : Tree.startsWithDigit rest = false) :
    ((whole ++ rest).head? == some '0' && Tree.startsWithDigit ((whole ++ rest).drop 1)) = false := by
  rw [List.head?_append_of_ne_nil _ h.ne_nil]
  by_cases hzero : whole.head? = some '0'
  · have hone := h.head_ne hzero
    rw [List.drop_append_of_le_length (by omega), List.drop_eq_nil_of_le (by omega), List.nil_append,
      hrest, Bool.and_false]
  · rw [beq_false_of_ne hzero, Bool.false_and]

/-- **A number without a point** has its whole part only. -/
theorem readNumber_whole (h : IsWhole whole) (hfits : Nat.ofDigitChars 10 whole 0 < Number.wordLimit)
    (hrest : Tree.startsWithDigit rest = false) (hpoint : rest.head? ≠ some '.') :
    readNumber negative (whole ++ rest)
      = readScale negative ⟨Nat.ofDigitChars 10 whole 0, 0, false⟩ true rest := by
  rw [readNumber, h.startsWithDigit, takeDigits_append h.isDigit hrest, foldl_pushWhole hfits]
  dsimp only
  rw [if_neg (by decide), if_neg (Bool.eq_false_iff.mp (h.no_leading_zero hrest))]
  cases rest with
  | nil => rfl
  | cons c rest =>
    split
    · next heq =>
      obtain ⟨rfl, -⟩ := List.cons.inj heq
      exact absurd rfl hpoint
    · rfl

/-- **A number with a point** has a fraction, each digit of which shifts its value. -/
theorem readNumber_point (h : IsWhole whole) (hfraction : ∀ c ∈ fraction, c.isDigit = true)
    (hne : fraction ≠ []) (hfits : Nat.ofDigitChars 10 (whole ++ fraction) 0 < Number.wordLimit)
    (hrest : Tree.startsWithDigit rest = false) :
    readNumber negative (whole ++ '.' :: (fraction ++ rest))
      = readScale negative ⟨Nat.ofDigitChars 10 (whole ++ fraction) 0, -fraction.length, false⟩ false
        rest := by
  rw [Nat.ofDigitChars_append] at hfits ⊢
  have hpoint : Tree.startsWithDigit ('.' :: (fraction ++ rest)) = false := rfl
  have hfits' : Nat.ofDigitChars 10 whole 0 < Number.wordLimit :=
    Nat.lt_of_le_of_lt (le_ofDigitChars _ fraction) hfits
  have hdigit : Tree.startsWithDigit (fraction ++ rest) = true := by
    cases fraction with
    | nil => exact absurd rfl hne
    | cons c cs => exact hfraction c (List.mem_cons_self ..)
  rw [readNumber, h.startsWithDigit, takeDigits_append h.isDigit hpoint, foldl_pushWhole hfits']
  dsimp only
  rw [if_neg (by decide), if_neg (Bool.eq_false_iff.mp (h.no_leading_zero hpoint))]
  show (if startsWithDigit (fraction ++ rest) then
    readScale negative (takeDigits Number.Digits.pushFraction _ (fraction ++ rest)).1 false
      (takeDigits Number.Digits.pushFraction _ (fraction ++ rest)).2 else none) = _
  rw [if_pos hdigit, takeDigits_append hfraction hrest, foldl_pushFraction hfits, Int.zero_sub]

/-! ### What stands behind the digits -/

variable {isWhole : Bool}

/-- A number that has come to its end. -/
theorem readScale_end (hrest : EndsNumber rest) :
    readScale negative d isWhole rest = some (finishNumber (if isWhole then Number.ofWhole? negative d
      else Number.ofDigits? negative d.value d.exponent) rest) := by
  cases rest with
  | nil => rfl
  | cons c rest =>
    obtain ⟨-, -, he, hE⟩ := hrest c rfl
    have hcond : ¬ (decide (c = 'e') || decide (c = 'E')) = true := by simp [he, hE]
    rw [readScale, if_neg hcond]
    rfl

/-- **A number with an exponent.** -/
theorem readScale_exponent {n : Nat} {down : Bool} (hrest : EndsNumber rest) :
    readScale negative d isWhole
        ('e' :: (if down then '-' else '+') :: (Nat.toDigits 10 n ++ rest))
      = some (finishNumber (Number.ofDigits? negative d.value
          (d.exponent + if down then -(n : Int) else n)) rest) := by
  have hwhole := isWhole_toDigits n
  have htaken := takeNat_append 0 hwhole.isDigit hrest.startsWithDigit
  rw [Nat.ofDigitChars_ten_toDigits] at htaken
  -- the sign decides whether what follows is added or taken away
  have hup (cs : List Char) : readExponent ('+' :: cs)
      = if startsWithDigit cs then some (((takeNat 0 cs).1 : Int), (takeNat 0 cs).2) else none := rfl
  have hdown (cs : List Char) : readExponent ('-' :: cs)
      = if startsWithDigit cs then some (-((takeNat 0 cs).1 : Int), (takeNat 0 cs).2) else none := rfl
  have hexponent : readExponent ((if down then '-' else '+') :: (Nat.toDigits 10 n ++ rest))
      = some (if down then -(n : Int) else n, rest) := by
    cases down
    · rw [if_neg Bool.false_ne_true, if_neg Bool.false_ne_true, hup,
        if_pos (hwhole.startsWithDigit rest), htaken]
    · rw [if_pos rfl, if_pos rfl, hdown, if_pos (hwhole.startsWithDigit rest), htaken]
  rw [readScale, hexponent]
  rfl

end Tree

end Flowgraph
