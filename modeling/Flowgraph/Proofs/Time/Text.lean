import Mathlib.Algebra.Group.Nat.Defs
import Mathlib.Data.List.TakeWhile
import Flowgraph.Proofs.Time.Calendar
import Flowgraph.Time.Rfc3339

/-!
# Instants are read back from their text

An instant is possible if it is one that clocks show: its year is within their range, and its
nanoseconds stay within its second, or within the leap second behind the last second of a minute.  It
is legible if its year has four digits as well.  A possible instant is read back from its text in data
(`Instant.readLoosely?_text`), and a legible one from its text in rows (`Instant.read?_rowText`).  What
is read from data is always possible (`Instant.possible_of_readLoosely?`), and what is read from the
text of a row always legible (`Instant.legible_of_read?`), whatever was written.
-/

namespace Flowgraph

namespace Instant

/-! ### Numbers -/

/-- The digits of a number, with zeros in front to the given width. -/
def digits (width n : Nat) : List Char :=
  List.replicate (width - (Nat.toDigits 10 n).length) '0' ++ Nat.toDigits 10 n

theorem toList_padded (width n : Nat) : (padded width n).toList = digits width n := by
  unfold padded digits
  rw [String.toList_append, String.toList_ofList, Nat.toString_eq_ofList_toDigits,
    String.toList_ofList, String.length_ofList]

theorem isDigit_of_mem_digits {width n : Nat} {c : Char} (h : c ∈ digits width n) :
    c.isDigit = true := by
  rcases List.mem_append.mp h with h | h
  · rw [List.eq_of_mem_replicate h]
    rfl
  · exact Nat.isDigit_of_mem_toDigits (by decide) (by decide) h

theorem length_digits {width n : Nat} (hwidth : 0 < width) (hn : n < 10 ^ width) :
    (digits width n).length = width := by
  have hlen := (Nat.length_toDigits_le_iff (b := 10) (by decide) hwidth).mpr hn
  unfold digits
  rw [List.length_append, List.length_replicate]
  omega

/-- The value of the digits of a number is the number. -/
theorem ofDigitChars_digits (width n : Nat) : Nat.ofDigitChars 10 (digits width n) 0 = n := by
  unfold digits
  rw [Nat.ofDigitChars_append, Nat.ofDigitChars_replicate_zero, Nat.mul_zero,
    Nat.ofDigitChars_ten_toDigits]

/-- **Digits are read as a number** up to where they end, or up to as many as may be read. -/
theorem number?_append {least most : Nat} {ds rest : List Char} (hds : ∀ c ∈ ds, c.isDigit = true)
    (hleast : least ≤ ds.length) (hmost : ds.length ≤ most)
    (hend : ds.length = most ∨ ∀ c ∈ rest.head?, c.isDigit = false) :
    number? least most (ds ++ rest) = some (Nat.ofDigitChars 10 ds 0, rest) := by
  have htaken : ((ds ++ rest).take most).takeWhile Char.isDigit = ds := by
    rw [List.take_append, List.take_of_length_le hmost, List.takeWhile_append_of_pos hds]
    -- either as many digits as may be read have been taken, or what follows is none
    rcases hend with hfull | hrest
    · rw [hfull, Nat.sub_self, List.take_zero, List.takeWhile_nil, List.append_nil]
    · cases hr : rest with
      | nil => simp
      | cons c rest' =>
        have hc := hrest c (by rw [hr]; rfl)
        cases hk : most - ds.length with
        | zero => simp
        | succ k => simp [hc]
  unfold number?
  simp only [htaken]
  rw [if_neg (Nat.not_lt.mpr hleast), List.drop_left, Nat.ofDigitChars_eq_foldl]
  refine congrArg (fun f => some (List.foldl f 0 ds, rest)) ?_
  funext n c
  rw [Nat.mul_comm]

theorem number?_digits {least width n : Nat} (rest : List Char) (hwidth : 0 < width)
    (hleast : least ≤ width) (hn : n < 10 ^ width) :
    number? least width (digits width n ++ rest) = some (n, rest) := by
  have hlen := length_digits hwidth hn
  rw [number?_append (fun c hc => isDigit_of_mem_digits hc) (by omega) (by omega) (.inl hlen),
    ofDigitChars_digits]

/-- A number that needs more digits than may be read is cut: a digit is left behind. -/
theorem number?_cut {most n : Nat} (rest : List Char) (hmost : 0 < most) (hn : 10 ^ most ≤ n) :
    ∃ m c cs, c.isDigit = true ∧ number? most most (digits most n ++ rest) = some (m, c :: cs) := by
  have hlong : most < (Nat.toDigits 10 n).length := by
    refine Nat.lt_of_not_le fun h => ?_
    exact Nat.not_lt.mpr hn ((Nat.length_toDigits_le_iff (by decide) hmost).mp h)
  have hdigits : digits most n = Nat.toDigits 10 n := by
    unfold digits
    rw [Nat.sub_eq_zero_of_le (Nat.le_of_lt hlong), List.replicate_zero, List.nil_append]
  rw [hdigits]
  have hall : ∀ c ∈ Nat.toDigits 10 n, c.isDigit = true :=
    fun c hc => Nat.isDigit_of_mem_toDigits (by decide) (by decide) hc
  generalize Nat.toDigits 10 n = ds at hlong hall
  obtain ⟨c, cs, hdrop⟩ : ∃ c cs, ds.drop most = c :: cs := by
    cases hdrop : ds.drop most with
    | nil =>
      rw [List.drop_eq_nil_iff] at hdrop
      omega
    | cons c cs => exact ⟨c, cs, rfl⟩
  have hlen : (ds.take most).length = most := List.length_take_of_le (Nat.le_of_lt hlong)
  -- the digits that may be read are followed by more of them
  have hread : number? most most (ds.take most ++ (ds.drop most ++ rest))
      = some (Nat.ofDigitChars 10 (ds.take most) 0, ds.drop most ++ rest) :=
    number?_append (fun c hc => hall c (List.mem_of_mem_take hc)) (Nat.le_of_eq hlen.symm)
      (Nat.le_of_eq hlen) (.inl hlen)
  rw [← List.append_assoc, List.take_append_drop, hdrop] at hread
  exact ⟨_, c, _, hall c (List.mem_of_mem_drop (hdrop ▸ List.mem_cons_self ..)), hread⟩

/-! ### Fractions and offsets -/

/-- A fraction of so many digits is read back. -/
theorem fraction?_digits {width n : Nat} {rest : List Char} (hwidth : 0 < width) (hle : width ≤ 9)
    (hn : n < 10 ^ width) (hrest : ∀ c ∈ rest.head?, c.isDigit = false) :
    fraction? ('.' :: (digits width n ++ rest)) = some (n * 10 ^ (9 - width), rest) := by
  have hlen := length_digits hwidth hn
  have hread : number? 1 9 (digits width n ++ rest) = some (n, rest) := by
    rw [number?_append (fun c hc => isDigit_of_mem_digits hc) (by omega) (by omega) (.inr hrest),
      ofDigitChars_digits]
  -- no digits beyond the ninth are there to be dropped
  have hdrop : rest.dropWhile Char.isDigit = rest := by
    cases hr : rest with
    | nil => rfl
    | cons c cs =>
      have hc := hrest c (by rw [hr]; rfl)
      rw [List.dropWhile_cons_of_neg (by rw [hc]; exact Bool.false_ne_true)]
  show (number? 1 9 _).bind _ = _
  rw [hread, Option.bind_some]
  dsimp only
  rw [List.length_append, Nat.add_sub_cancel, hlen, hdrop]
  rfl

/-- **The fraction of a second is read back**, in whichever form it is written. -/
theorem fraction?_fractionText {n : Nat} {rest : List Char} (hn : n < second)
    (hrest : ∀ c ∈ rest.head?, c.isDigit = false ∧ c ≠ '.') :
    fraction? ((fractionText n).toList ++ rest) = some (n, rest) := by
  have hdigit : ∀ c ∈ rest.head?, c.isDigit = false := fun c hc => (hrest c hc).1
  unfold second at hn
  unfold fractionText
  split
  · -- a whole second has no fraction, and nothing that follows looks like one
    next hzero =>
    rw [hzero, String.toList_empty, List.nil_append]
    cases hr : rest with
    | nil => rfl
    | cons c cs =>
      have hc := (hrest c (by rw [hr]; rfl)).2
      unfold fraction?
      split
      · next heq => exact absurd (List.cons.inj heq).1 hc
      · rfl
  · -- with three, six or nine digits, of which the unit is so many nanoseconds
    have hunits : ∀ {width m : Nat}, 0 < width → width ≤ 9 → m < 10 ^ width →
        m * 10 ^ (9 - width) = n →
          fraction? ('.' :: (digits width m ++ rest)) = some (n, rest) :=
      fun hwidth hle hm hunit => hunit ▸ fraction?_digits hwidth hle hm hdigit
    split
    · rw [String.toList_append, toList_padded]
      exact hunits (by decide) (by decide) (by omega) (by omega)
    · split
      · rw [String.toList_append, toList_padded]
        exact hunits (by decide) (by decide) (by omega) (by omega)
      · rw [String.toList_append, toList_padded]
        exact hunits (by decide) (by decide) (by omega) (by omega)

/-! ### What numbers are read -/

theorem foldl_digits_lt {ds : List Char} (hds : ∀ c ∈ ds, c.isDigit = true) (m : Nat) :
    ds.foldl (fun n c => n * 10 + (c.toNat - '0'.toNat)) m < (m + 1) * 10 ^ ds.length := by
  induction ds generalizing m with
  | nil => simp
  | cons c rest ih =>
    have hc : c.toNat - '0'.toNat ≤ 9 := by
      have hdigit := hds c (List.mem_cons_self ..)
      simp only [Char.isDigit, Bool.and_eq_true, decide_eq_true_eq] at hdigit
      have hle : c.toNat ≤ 57 := hdigit.2
      show c.toNat - 48 ≤ 9
      omega
    have hrest := ih (fun c hc => hds c (List.mem_cons_of_mem _ hc))
      (m * 10 + (c.toNat - '0'.toNat))
    refine Nat.lt_of_lt_of_le hrest ?_
    calc (m * 10 + (c.toNat - '0'.toNat) + 1) * 10 ^ rest.length
        ≤ (m + 1) * 10 * 10 ^ rest.length := Nat.mul_le_mul_right _ (by omega)
      _ = (m + 1) * 10 ^ (c :: rest).length := by
          rw [List.length_cons, Nat.pow_succ, Nat.mul_assoc, Nat.mul_comm 10]

/-- A number that is read is below the power of ten that its digits allow. -/
theorem number?_lt {least most n : Nat} {cs rest : List Char}
    (h : number? least most cs = some (n, rest)) :
    cs.length - rest.length ≤ most ∧ n < 10 ^ (cs.length - rest.length) := by
  unfold number? at h
  dsimp only at h
  split at h
  · exact nomatch h
  · obtain ⟨rfl, rfl⟩ := Prod.mk.inj (Option.some.inj h)
    have htaken := (List.takeWhile_sublist (l := cs.take most) Char.isDigit).length_le
    rw [List.length_take] at htaken
    have hlen : cs.length - (cs.drop ((cs.take most).takeWhile Char.isDigit).length).length
        = ((cs.take most).takeWhile Char.isDigit).length := by
      rw [List.length_drop]
      omega
    have hdigits : ∀ c ∈ (cs.take most).takeWhile Char.isDigit, c.isDigit = true :=
      fun c hc => List.mem_takeWhile_imp hc
    have hlt := foldl_digits_lt hdigits 0
    rw [Nat.zero_add, Nat.one_mul] at hlt
    rw [hlen]
    exact ⟨by omega, hlt⟩

/-- A fraction that is read is below a second. -/
theorem fraction?_lt {n : Nat} {cs rest : List Char} (h : fraction? cs = some (n, rest)) :
    n < second := by
  unfold fraction? at h
  split at h
  · next digits =>
    obtain ⟨⟨m, after⟩, hm, h⟩ := Option.bind_eq_some_iff.mp h
    obtain ⟨rfl, -⟩ := Prod.mk.inj (Option.some.inj h)
    obtain ⟨hused, hlt⟩ := number?_lt hm
    dsimp only at *
    generalize digits.length - after.length = used at hused hlt ⊢
    calc m * 10 ^ (9 - used) < 10 ^ used * 10 ^ (9 - used) :=
          Nat.mul_lt_mul_of_pos_right hlt (Nat.pow_pos (by decide))
      _ = 10 ^ 9 := by rw [← Nat.pow_add, Nat.add_sub_cancel' hused]
  · obtain ⟨rfl, -⟩ := Prod.mk.inj (Option.some.inj h)
    decide

/-- An offset that is read is one of whole minutes. -/
theorem offset?_emod {separator : List Char → Option (List Char)} {o : Int} {cs rest : List Char}
    (h : offset? separator cs = some (o, rest)) : o % 60 = 0 := by
  unfold offset? at h
  split at h
  · exact nomatch h
  · split at h
    · obtain ⟨rfl, -⟩ := Prod.mk.inj (Option.some.inj h)
      rfl
    · split at h
      · obtain ⟨⟨hours, cs₁⟩, -, h⟩ := Option.bind_eq_some_iff.mp h
        obtain ⟨cs₂, -, h⟩ := Option.bind_eq_some_iff.mp h
        obtain ⟨⟨minutes, cs₃⟩, -, h⟩ := Option.bind_eq_some_iff.mp h
        dsimp only at h
        split at h
        · exact nomatch h
        · obtain ⟨rfl, -⟩ := Prod.mk.inj (Option.some.inj h)
          split <;> omega
      · exact nomatch h

theorem looseOffset?_emod {o : Int} {cs rest : List Char}
    (h : looseOffset? cs = some (o, rest)) : o % 60 = 0 := by
  unfold looseOffset? at h
  split at h
  · obtain ⟨rfl, -⟩ := Prod.mk.inj (Option.some.inj h)
    rfl
  · exact offset?_emod h

/-! ### The fields of an instant -/

/-- The fields in which an instant is written. -/
def fields (t : Instant) : Fields :=
  ⟨t.date, t.secondOfDay / 3600, t.secondOfDay / 60 % 60, t.secondOfDay % 60 + t.nanos / second,
    t.nanos % second, 0⟩

/-- **An instant that clocks show**: its year is within their range, and its nanoseconds go beyond
its second only in the last second of a minute. -/
structure Possible (t : Instant) : Prop where
  year : yearInRange t.date.year
  nanos_lt : t.nanos < 2 * second
  leap : second ≤ t.nanos → t.seconds % 60 = 59

/-- **A legible instant**: its year has four digits, and its nanoseconds go beyond its second only
in the last second of a minute. -/
structure Legible (t : Instant) : Prop where
  year_nonneg : 0 ≤ t.date.year
  year_le : t.date.year ≤ 9999
  nanos_lt : t.nanos < 2 * second
  leap : second ≤ t.nanos → t.seconds % 60 = 59

theorem date_isValid (t : Instant) : t.date.isValid := Date.isValid_ofDays _

theorem secondOfDay_lt (t : Instant) : t.secondOfDay < day := by
  unfold secondOfDay day
  omega

/-- The day and the second of the day make up the seconds of an instant. -/
theorem toDays_date (t : Instant) : t.date.toDays * day + t.secondOfDay = t.seconds := by
  unfold date secondOfDay day
  rw [Date.toDays_ofDays]
  omega

theorem yearInRange_of_digits {year : Int} (h0 : 0 ≤ year) (h1 : year ≤ 9999) :
    yearInRange year = true := by
  unfold yearInRange
  rw [Bool.and_eq_true, decide_eq_true_eq, decide_eq_true_eq]
  omega

theorem Legible.possible {t : Instant} (h : t.Legible) : t.Possible :=
  ⟨yearInRange_of_digits h.year_nonneg h.year_le, h.nanos_lt, h.leap⟩

/-- The instant that fields name. -/
def Fields.instant (f : Fields) : Instant :=
  ⟨f.date.toDays * day + ((f.hour * 3600 + f.minute * 60 + min f.second 59 : Nat) : Int) - f.offset,
    if f.second = 60 then Instant.second + f.nanos else f.nanos⟩

/-- Fields that are in range. -/
structure Fields.InRange (f : Fields) : Prop where
  date : f.date.isValid
  year : yearInRange f.date.year
  hour : f.hour < 24
  minute : f.minute < 60
  second : f.second ≤ 60
  offset : f.offset.natAbs < day

theorem ofFields?_eq_some_iff {f : Fields} {t : Instant} :
    ofFields? f = some t ↔ f.InRange ∧ t = f.instant ∧ yearInRange t.date.year := by
  have hfields : ofFields? f = if f.date.isValid && yearInRange f.date.year && f.hour < 24
        && f.minute < 60 && f.second ≤ 60 && f.offset.natAbs < day then
      if yearInRange f.instant.date.year then some f.instant else none
    else none := rfl
  rw [hfields]
  simp only [Bool.and_eq_true, decide_eq_true_eq, Option.ite_none_right_eq_some, Option.some.injEq]
  constructor
  · rintro ⟨⟨⟨⟨⟨⟨hdate, hyear⟩, hhour⟩, hminute⟩, hsecond⟩, hoffset⟩, hrange, rfl⟩
    exact ⟨⟨hdate, hyear, hhour, hminute, hsecond, hoffset⟩, rfl, hrange⟩
  · rintro ⟨⟨hdate, hyear, hhour, hminute, hsecond, hoffset⟩, rfl, hrange⟩
    exact ⟨⟨⟨⟨⟨⟨hdate, hyear⟩, hhour⟩, hminute⟩, hsecond⟩, hoffset⟩, hrange, rfl⟩

theorem Possible.second_lt {t : Instant} (h : t.Possible) : t.fields.second < 10 ^ 2 := by
  have hnanos := h.nanos_lt
  unfold second at hnanos
  unfold fields second
  dsimp only
  omega

/-- **A possible instant is the one that its fields name.** -/
theorem ofFields?_fields {t : Instant} (h : t.Possible) : ofFields? t.fields = some t := by
  obtain ⟨hrange, hnanos, hleap⟩ := h
  have hday := toDays_date t
  have hsecond := secondOfDay_lt t
  have hlast : t.seconds % 60 = 59 → t.secondOfDay % 60 = 59 := by
    unfold secondOfDay day
    omega
  have hinRange : t.fields.InRange := by
    refine ⟨t.date_isValid, hrange, ?_, ?_, ?_, Nat.zero_lt_succ _⟩
    all_goals
      unfold fields second
      unfold day at hsecond
      unfold second at hnanos hleap
      dsimp only
      omega
  have hinstant : t = t.fields.instant := by
    -- the leap second is written as second 60, and counted as nanoseconds of second 59
    obtain ⟨seconds, nanos⟩ := t
    unfold Fields.instant fields
    unfold second day at *
    dsimp only at *
    congr 1
    · omega
    · split <;> omega
  exact ofFields?_eq_some_iff.mpr ⟨hinRange, hinstant, hrange⟩

/-- The date of what is named by fields in universal time is their date. -/
theorem Fields.InRange.date_instant {f : Fields} (h : f.InRange) (hoffset : f.offset = 0) :
    f.instant.date = f.date := by
  have hdays : f.instant.seconds / day = f.date.toDays := by
    have hhour := h.hour
    have hminute := h.minute
    show (f.date.toDays * day + _ - f.offset) / day = f.date.toDays
    rw [hoffset]
    unfold day
    omega
  unfold Instant.date
  rw [hdays, Date.ofDays_toDays h.date]

/-- Fields in universal time are those of the instant that they name. -/
theorem Fields.InRange.fields_instant {f : Fields} (h : f.InRange) (hnanos : f.nanos < Instant.second)
    (hoffset : f.offset = 0) : f.instant.fields = f := by
  have hdate := h.date_instant hoffset
  have hclock : f.instant.secondOfDay = f.hour * 3600 + f.minute * 60 + min f.second 59 := by
    have hhour := h.hour
    have hminute := h.minute
    unfold secondOfDay instant
    dsimp only
    rw [hoffset]
    unfold day
    omega
  have hhour := h.hour
  have hminute := h.minute
  have hsecond := h.second
  -- the second 60 is found again in the nanoseconds
  have hparts : f.instant.nanos / Instant.second = (if f.second = 60 then 1 else 0) ∧
      f.instant.nanos % Instant.second = f.nanos := by
    unfold instant Instant.second at *
    dsimp only
    split <;> omega
  obtain ⟨date, hour, minute, second, nanos, offset⟩ := f
  dsimp only at *
  unfold Instant.fields
  rw [hdate, hclock, hparts.1, hparts.2, hoffset]
  congr 1
  · omega
  · omega
  · split <;> omega

/-- What is named by fields with an offset of whole minutes is possible. -/
theorem possible_of_ofFields? {f : Fields} {t : Instant} (h : ofFields? f = some t)
    (hnanos : f.nanos < second) (hoffset : f.offset % 60 = 0) : t.Possible := by
  obtain ⟨-, rfl, hyear⟩ := ofFields?_eq_some_iff.mp h
  refine ⟨hyear, ?_, ?_⟩
  · unfold Fields.instant
    dsimp only
    split <;> omega
  · unfold Fields.instant
    dsimp only
    unfold day
    intro hleap
    split at hleap <;> omega

/-- What is named by fields in universal time with a year of four digits is legible. -/
theorem legible_of_ofFields? {f : Fields} {t : Instant} (h : ofFields? f = some t)
    (hy0 : 0 ≤ f.date.year) (hy1 : f.date.year ≤ 9999) (hnanos : f.nanos < second)
    (hoffset : f.offset = 0) : t.Legible := by
  have hpossible := possible_of_ofFields? h hnanos (by rw [hoffset]; rfl)
  obtain ⟨hf, rfl, -⟩ := ofFields?_eq_some_iff.mp h
  have hdate := hf.date_instant hoffset
  exact ⟨hdate ▸ hy0, hdate ▸ hy1, hpossible.nanos_lt, hpossible.leap⟩

/-! ### Reading what is written -/

/-- The text of an instant, year first. -/
theorem toList_textWith (t : Instant) (zone : String) :
    (t.textWith zone).toList =
      (yearText t.fields.date.year).toList ++ '-' :: (digits 2 t.fields.date.month
        ++ '-' :: (digits 2 t.fields.date.day ++ 'T' :: (digits 2 t.fields.hour
          ++ ':' :: (digits 2 t.fields.minute ++ ':' :: (digits 2 t.fields.second
            ++ ((fractionText t.fields.nanos).toList ++ zone.toList)))))) := by
  unfold textWith dateText timeText
  simp only [String.toList_append, toList_padded, List.append_assoc]
  rfl

/-- A year of four digits. -/
theorem toList_yearText {year : Int} (hy0 : 0 ≤ year) (hy1 : year ≤ 9999) :
    (yearText year).toList = digits 4 year.toNat := by
  unfold yearText
  rw [if_pos, toList_padded]
  rw [Bool.and_eq_true, decide_eq_true_eq, decide_eq_true_eq]
  exact ⟨hy0, hy1⟩

/-- A year with a sign. -/
theorem toList_yearText_signed {year : Int} (hy : year < 0 ∨ 9999 < year) :
    (yearText year).toList = (if year < 0 then '-' else '+') :: digits 4 year.natAbs := by
  unfold yearText
  rw [if_neg, String.toList_append, toList_padded]
  · split <;> rfl
  · rw [Bool.and_eq_true, decide_eq_true_eq, decide_eq_true_eq]
    omega

/-- The numbers in the text of an instant, as far as they always fit. -/
structure Fits (f : Fields) : Prop where
  month : f.date.month < 10 ^ 2
  day : f.date.day < 10 ^ 2
  hour : f.hour < 10 ^ 2
  minute : f.minute < 10 ^ 2
  nanos : f.nanos < second

theorem fits_fields (t : Instant) : Fits t.fields := by
  have hvalid := t.date_isValid
  simp only [Date.isValid, Bool.and_eq_true, decide_eq_true_eq] at hvalid
  obtain ⟨⟨⟨-, hmonth⟩, -⟩, hday⟩ := hvalid
  have hlen : Date.monthLength t.date.year t.date.month ≤ 31 := by
    unfold Date.monthLength
    split
    · split <;> decide
    all_goals decide
  have hsecond := secondOfDay_lt t
  unfold Instant.day at hsecond
  unfold fields
  refine ⟨?_, ?_, ?_, ?_, Nat.mod_lt _ (by decide)⟩ <;> dsimp only <;> omega

theorem behind?_cons (c : Char) (cs : List Char) : behind? c (c :: cs) = some cs := if_pos rfl

theorem betweenDateAndTime?_T (cs : List Char) : betweenDateAndTime? ('T' :: cs) = some cs := rfl

/-- The standard form is read up to its second, which is all of it that may not fit. -/
theorem read?_rowText_upToSecond {t : Instant} (hy0 : 0 ≤ t.date.year) (hy1 : t.date.year ≤ 9999) :
    read? t.rowText =
      (number? 2 2 (digits 2 t.fields.second
          ++ ((fractionText t.fields.nanos).toList ++ "+00:00".toList))).bind fun sec =>
        (fraction? sec.2).bind fun nanos =>
          (offset? (behind? ':') nanos.2).bind fun offset =>
            if offset.2.isEmpty then
              ofFields? { t.fields with second := sec.1, nanos := nanos.1, offset := offset.1 }
            else none := by
  have hfits := fits_fields t
  have hyear : ((t.fields.date.year.toNat : Nat) : Int) = t.fields.date.year :=
    Int.toNat_of_nonneg hy0
  have hyear_lt : t.fields.date.year.toNat < 10 ^ 4 := by
    show t.date.year.toNat < 10 ^ 4
    omega
  unfold read? rowText
  rw [toList_textWith, @toList_yearText t.fields.date.year hy0 hy1]
  simp only [Option.bind_eq_bind, Option.bind_some, behind?_cons, betweenDateAndTime?_T,
    number?_digits _ (by decide : 0 < 4) (by decide : 4 ≤ 4) hyear_lt,
    number?_digits _ (by decide : 0 < 2) (by decide : 2 ≤ 2) hfits.month,
    number?_digits _ (by decide : 0 < 2) (by decide : 2 ≤ 2) hfits.day,
    number?_digits _ (by decide : 0 < 2) (by decide : 2 ≤ 2) hfits.hour,
    number?_digits _ (by decide : 0 < 2) (by decide : 2 ≤ 2) hfits.minute, hyear]

/-- **What the standard form is read as**, up to the range of its fields. -/
theorem read?_rowText_eq {t : Instant} (hy0 : 0 ≤ t.date.year) (hy1 : t.date.year ≤ 9999)
    (hsecond : t.fields.second < 10 ^ 2) : read? t.rowText = ofFields? t.fields := by
  have hread := number?_digits ((fractionText t.fields.nanos).toList ++ "+00:00".toList)
    (by decide : 0 < 2) (by decide : 2 ≤ 2) hsecond
  have hfraction : fraction? ((fractionText t.fields.nanos).toList ++ "+00:00".toList)
      = some (t.fields.nanos, "+00:00".toList) :=
    fraction?_fractionText (fits_fields t).nanos (by simp)
  have hoffset : offset? (behind? ':') "+00:00".toList = some (0, []) := by decide
  rw [read?_rowText_upToSecond hy0 hy1, hread, Option.bind_some, hfraction, Option.bind_some,
    hoffset]
  rfl

/-- **A legible instant is read back from the text of a row.** -/
theorem read?_rowText {t : Instant} (h : t.Legible) : read? t.rowText = some t := by
  rw [read?_rowText_eq h.year_nonneg h.year_le h.possible.second_lt, ofFields?_fields h.possible]

/-- Where there need not be an instant, the one that there is is read back if it is legible. -/
theorem map_read?_rowText {t : Option Instant} (h : ∀ u ∈ t, u.Legible) :
    (t.map rowText).map read? = t.map some := by
  cases t with
  | none => rfl
  | some u => exact congrArg some (read?_rowText (h u rfl))

/-- A signed year is not read. -/
theorem read?_rowText_of_year {t : Instant} (hy : t.date.year < 0 ∨ 9999 < t.date.year) :
    read? t.rowText = none := by
  obtain ⟨c, cs, hc, htext⟩ : ∃ c cs, c.isDigit = false ∧ t.rowText.toList = c :: cs := by
    rw [rowText, toList_textWith, @toList_yearText_signed t.fields.date.year hy]
    split
    · exact ⟨'-', _, rfl, rfl⟩
    · exact ⟨'+', _, rfl, rfl⟩
  have hnone : number? 4 4 (c :: cs) = none := by
    unfold number?
    rw [List.take_succ_cons, List.takeWhile_cons_of_neg (by rw [hc]; exact Bool.false_ne_true)]
    rfl
  unfold read?
  rw [htext, hnone]
  rfl

/-- More seconds than two digits hold are not read. -/
theorem read?_rowText_of_second {t : Instant} (hy0 : 0 ≤ t.date.year) (hy1 : t.date.year ≤ 9999)
    (hsecond : 10 ^ 2 ≤ t.fields.second) : read? t.rowText = none := by
  obtain ⟨m, c, cs, hc, hcut⟩ := number?_cut
    ((fractionText t.fields.nanos).toList ++ "+00:00".toList) (by decide) hsecond
  -- what is left begins with a digit, and neither a fraction nor an offset does
  have hfraction : fraction? (c :: cs) = some (0, c :: cs) := by
    unfold fraction?
    split
    · next heq =>
      rw [(List.cons.inj heq).1] at hc
      exact nomatch hc
    · rfl
  have hoffset : offset? (behind? ':') (c :: cs) = none := by
    unfold offset?
    dsimp only
    rw [if_neg, if_neg]
    · rintro h
      simp only [Bool.or_eq_true, decide_eq_true_eq] at h
      rcases h with (rfl | rfl) | rfl <;> exact nomatch hc
    · rintro h
      simp only [Bool.or_eq_true, decide_eq_true_eq] at h
      rcases h with rfl | rfl <;> exact nomatch hc
  rw [read?_rowText_upToSecond hy0 hy1, hcut, Option.bind_some, hfraction, Option.bind_some, hoffset]
  rfl

/-- What is read from the text of a row has a year of four digits, and the fields that were written. -/
theorem ofFields?_of_read? {t t' : Instant} (h : read? t.rowText = some t') :
    0 ≤ t.date.year ∧ t.date.year ≤ 9999 ∧ ofFields? t.fields = some t' := by
  rcases Int.lt_or_le t.date.year 0 with hy | hy0
  · rw [read?_rowText_of_year (.inl hy)] at h
    exact nomatch h
  rcases Int.lt_or_le 9999 t.date.year with hy | hy1
  · rw [read?_rowText_of_year (.inr hy)] at h
    exact nomatch h
  rcases Nat.lt_or_ge t.fields.second (10 ^ 2) with hsecond | hsecond
  · rw [read?_rowText_eq hy0 hy1 hsecond] at h
    exact ⟨hy0, hy1, h⟩
  · rw [read?_rowText_of_second hy0 hy1 hsecond] at h
    exact nomatch h

/-- **What is read from the text of a row is legible**, whatever instant was written. -/
theorem legible_of_read? {t t' : Instant} (h : read? t.rowText = some t') : t'.Legible := by
  obtain ⟨hy0, hy1, h⟩ := ofFields?_of_read? h
  exact legible_of_ofFields? h hy0 hy1 (Nat.mod_lt _ (by decide)) rfl

/-- **What is read from the text of a row has that text**, whatever instant was written. -/
theorem rowText_of_read? {t t' : Instant} (h : read? t.rowText = some t') :
    t'.rowText = t.rowText := by
  have hlegible := legible_of_read? h
  obtain ⟨hy0, hy1, hfields⟩ := ofFields?_of_read? h
  obtain ⟨hrange, rfl, -⟩ := ofFields?_eq_some_iff.mp hfields
  -- a text with a year of four digits is made of the fields
  refine String.toList_inj.mp ?_
  rw [rowText, rowText, toList_textWith, toList_textWith,
    hrange.fields_instant (Nat.mod_lt _ (by decide)) rfl]

/-! ### The loose form -/

theorem trimStart_cons {c : Char} (hc : Text.isSpace c = false) (cs : List Char) :
    Text.trimStart (c :: cs) = c :: cs :=
  List.dropWhile_cons_of_neg (by rw [hc]; exact Bool.false_ne_true)

/-- A digit is no blank, and no sign. -/
theorem not_isSpace_of_isDigit {c : Char} (hc : c.isDigit = true) :
    Text.isSpace c = false ∧ c ≠ '-' ∧ c ≠ '+' := by
  refine ⟨?_, ?_, ?_⟩
  · obtain ⟨hlow, hhigh⟩ : 48 ≤ c.toNat ∧ c.toNat ≤ 57 := by
      unfold Char.isDigit at hc
      rw [Bool.and_eq_true, decide_eq_true_eq, decide_eq_true_eq] at hc
      exact hc
    unfold Text.isSpace
    simp only [Bool.or_eq_false_iff, Bool.and_eq_false_iff, decide_eq_false_iff_not, beq_eq_false_iff_ne]
    omega
  · rintro rfl
    exact nomatch hc
  · rintro rfl
    exact nomatch hc

/-- Digits begin with a digit. -/
theorem exists_digits_eq {width n : Nat} (hwidth : 0 < width) (hn : n < 10 ^ width) :
    ∃ c cs, digits width n = c :: cs ∧ c.isDigit = true := by
  have hlen := length_digits hwidth hn
  cases hd : digits width n with
  | nil =>
    rw [hd] at hlen
    exact absurd hlen.symm (Nat.ne_of_gt hwidth)
  | cons c cs => exact ⟨c, cs, rfl, isDigit_of_mem_digits (hd ▸ List.mem_cons_self ..)⟩

theorem field?_digits {n : Nat} (rest : List Char) (hn : n < 10 ^ 2) :
    field? (digits 2 n ++ rest) = some (n, rest) := by
  obtain ⟨c, cs, hd, hc⟩ := exists_digits_eq (by decide) hn
  have htrim : Text.trimStart (digits 2 n ++ rest) = digits 2 n ++ rest := by
    rw [hd, List.cons_append, trimStart_cons (not_isSpace_of_isDigit hc).1]
  unfold field?
  rw [htrim, number?_digits rest (by decide) (by decide) hn]

theorem year?_digits {n : Nat} (rest : List Char) (hn : n < 10 ^ 4) :
    year? (digits 4 n ++ rest) = some ((n : Int), rest) := by
  obtain ⟨c, cs, hd, hc⟩ := exists_digits_eq (by decide) hn
  obtain ⟨hblank, hminus, hplus⟩ := not_isSpace_of_isDigit hc
  have hread : number? 1 4 (digits 4 n ++ rest) = some (n, rest) :=
    number?_digits rest (by decide) (by decide) hn
  rw [hd, List.cons_append] at hread ⊢
  unfold year?
  rw [trimStart_cons hblank]
  -- the text begins with a digit, so there is no sign
  split
  · next heq => exact absurd (List.cons.inj heq).1 hminus
  · next heq => exact absurd (List.cons.inj heq).1 hplus
  · rw [hread]
    rfl

/-- **A year is read back**, with its sign if it has one. -/
theorem year?_yearText (year : Int) (rest : List Char) :
    year? ((yearText year).toList ++ '-' :: rest) = some (year, '-' :: rest) := by
  by_cases hy : 0 ≤ year ∧ year ≤ 9999
  · obtain ⟨hy0, hy1⟩ := hy
    rw [toList_yearText hy0 hy1, year?_digits _ (by omega), Int.toNat_of_nonneg hy0]
  · -- behind a sign all digits are read, however many there are
    have hsigned : year < 0 ∨ 9999 < year := by omega
    have hlen : 1 ≤ (digits 4 year.natAbs).length := by
      unfold digits
      rw [List.length_append, List.length_replicate]
      omega
    have hread : number? 1 (digits 4 year.natAbs ++ '-' :: rest).length
        (digits 4 year.natAbs ++ '-' :: rest) = some (year.natAbs, '-' :: rest) := by
      rw [number?_append (fun c hc => isDigit_of_mem_digits hc) hlen (by simp)
        (.inr (by simp)), ofDigitChars_digits]
    rw [toList_yearText_signed hsigned, List.cons_append]
    unfold year?
    rcases Int.lt_or_le year 0 with hneg | hpos
    · rw [if_pos hneg, trimStart_cons (c := '-') (by decide)]
      show (number? 1 _ _).map _ = _
      rw [hread, Option.map_some]
      refine congrArg (fun y => some (y, _)) ?_
      show -((year.natAbs : Nat) : Int) = year
      omega
    · rw [if_neg (Int.not_lt.mpr hpos), trimStart_cons (c := '+') (by decide)]
      show (number? 1 _ _).map _ = _
      rw [hread, Option.map_some]
      refine congrArg (fun y => some (y, _)) ?_
      show ((year.natAbs : Nat) : Int) = year
      omega

/-- **A possible instant is read back from its text in data.** -/
theorem readLoosely?_text {t : Instant} (h : t.Possible) : readLoosely? t.text = some t := by
  have hfits := fits_fields t
  have hsecond := h.second_lt
  have hfraction : fraction? ((fractionText t.fields.nanos).toList ++ "Z".toList)
      = some (t.fields.nanos, "Z".toList) :=
    fraction?_fractionText hfits.nanos (by simp)
  have hoffset : looseOffset? (Text.trimStart "Z".toList) = some (0, []) := by decide
  have hdash := trimStart_cons (c := '-') (by decide)
  have hcolon := trimStart_cons (c := ':') (by decide)
  unfold readLoosely? text
  rw [toList_textWith]
  simp only [Option.bind_eq_bind, Option.bind_some, behind?_cons, betweenDateAndTime?_T,
    year?_yearText, field?_digits _ hfits.month, field?_digits _ hfits.day,
    field?_digits _ hfits.hour, field?_digits _ hfits.minute, field?_digits _ hsecond, hdash, hcolon,
    hfraction, hoffset]
  exact ofFields?_fields h

/-- **What is read in the loose form is possible.** -/
theorem possible_of_readLoosely? {s : String} {t : Instant} (h : readLoosely? s = some t) :
    t.Possible := by
  unfold readLoosely? at h
  simp only [Option.bind_eq_bind, Option.bind_eq_some_iff] at h
  obtain ⟨⟨year, _⟩, -, _, -, ⟨month, _⟩, -, _, -, ⟨dayOfMonth, _⟩, -, _, -, ⟨hour, _⟩, -, _, -,
    ⟨minute, _⟩, -, _, -, ⟨sec, _⟩, -, ⟨nanos, _⟩, hnanos, ⟨offset, _⟩, hoffset, h⟩ := h
  dsimp only at h
  split at h
  · exact possible_of_ofFields? h (fraction?_lt hnanos) (looseOffset?_emod hoffset)
  · exact nomatch h

end Instant

end Flowgraph
