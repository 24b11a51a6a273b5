import Flowgraph.Time.Instant

/-!
# Days and dates

`Date.ofDays` and `Date.toDays` are inverse to each other: every day is that of its date
(`Date.toDays_ofDays`), its date exists (`Date.isValid_ofDays`), and every date that exists is that of
its day (`Date.ofDays_toDays`).

Both count in eras of 400 years, each year beginning in March.  The year of a day of the era is found
by taking away the leap days before it, as if there were one in each 1460 days but for the last one
of each century that has none; this count of plain days never goes back (`Date.plainDays_mono`), and
what it comes to at both ends of each of the 400 years is looked up (`Date.plainDays_year`).

Of two instants, one is not later than the other (`Instant.le_total`).
-/

namespace Flowgraph

namespace Date

/-! ### Years of an era -/

/-- The days of an era that lie before a year of it. -/
def daysBefore (y : Int) : Int := y * 365 + y / 4 - y / 100

/-- The number of days of a year of an era; its leap day comes last. -/
def yearLength (y : Int) : Int := 365 + if isLeap (y + 1) then 1 else 0

/-- The days of an era before one of them, less the leap days. -/
def plainDays (n : Int) : Int := n - n / 1460 + n / 36524 - n / 146096

theorem plainDays_le_succ {n : Int} (h0 : 0 ≤ n) (h1 : n < 146096) :
    plainDays n ≤ plainDays (n + 1) := by
  unfold plainDays
  -- only the last day of the era is both a leap day and the beginning of a century
  rcases Int.lt_or_eq_of_le (Int.add_one_le_of_lt h1) with h | h
  · omega
  · obtain rfl : n = 146095 := by omega
    decide

theorem plainDays_mono {m n : Int} (h0 : 0 ≤ m) (h : m ≤ n) (h1 : n < 146097) :
    plainDays m ≤ plainDays n := by
  obtain ⟨k, rfl⟩ := Int.le.dest h
  induction k with
  | zero => exact Int.le_of_eq (congrArg plainDays (Int.add_zero m).symm)
  | succ k ih =>
    have hk := ih (by omega) (by omega)
    have hs := plainDays_le_succ (n := m + k) (by omega) (by omega)
    rw [Int.natCast_succ, ← Int.add_assoc]
    exact Int.le_trans hk hs

/-- **The plain days of a year**: those before its first day, and those before its last one.  The
next year begins behind it, but for the last one of the era. -/
theorem plainDays_year {y : Int} (h0 : 0 ≤ y) (h1 : y < 400) :
    365 * y ≤ plainDays (daysBefore y) ∧
      plainDays (daysBefore y + yearLength y - 1) < 365 * (y + 1) ∧
      daysBefore (y + 1) = daysBefore y + yearLength y - (if y = 399 then 1 else 0) := by
  obtain ⟨n, rfl⟩ := Int.eq_ofNat_of_zero_le h0
  have hall : ∀ n : Nat, n < 400 → 365 * (n : Int) ≤ plainDays (daysBefore n) ∧
      plainDays (daysBefore n + yearLength n - 1) < 365 * ((n : Int) + 1) ∧
      daysBefore ((n : Int) + 1)
        = daysBefore n + yearLength n - (if (n : Int) = 399 then 1 else 0) := by
    decide +kernel
  exact hall n (by omega)

theorem yearLength_cases (y : Int) : yearLength y = 365 ∨ yearLength y = 366 := by
  unfold yearLength
  split
  · exact .inr rfl
  · exact .inl rfl

/-- A year of an era begins and ends within the era. -/
theorem daysBefore_bounds {y : Int} (h0 : 0 ≤ y) (h1 : y < 400) :
    0 ≤ daysBefore y ∧ daysBefore y + yearLength y ≤ 146097 := by
  obtain ⟨-, -, hnext⟩ := plainDays_year h0 h1
  have hlast : daysBefore (y + 1) ≤ 146096 := by
    unfold daysBefore
    omega
  refine ⟨by unfold daysBefore; omega, ?_⟩
  split at hnext <;> omega

/-- **The year that a day belongs to** is found from its plain days. -/
theorem year_of_daysBefore {y k : Int} (h0 : 0 ≤ y) (h1 : y < 400) (hk : 0 ≤ k)
    (hlt : k < yearLength y) : plainDays (daysBefore y + k) / 365 = y := by
  obtain ⟨hfirst, hlast, -⟩ := plainDays_year h0 h1
  obtain ⟨hb0, hb1⟩ := daysBefore_bounds h0 h1
  have hlow := plainDays_mono hb0 (Int.le_add_of_nonneg_right hk) (by omega)
  have hhigh := plainDays_mono (m := daysBefore y + k) (n := daysBefore y + yearLength y - 1)
    (by omega) (by omega) (by omega)
  omega

/-- **A day of an era lies in the year that is found for it.** -/
theorem day_of_plainDays {n y : Int} (h0 : 0 ≤ n) (h1 : n < 146097) (hy : y = plainDays n / 365) :
    (0 ≤ y ∧ y < 400) ∧ 0 ≤ n - daysBefore y ∧ n - daysBefore y < yearLength y := by
  have hy0 : 0 ≤ y := by
    rw [hy]
    unfold plainDays
    omega
  have hy1 : y < 400 := by
    rw [hy]
    unfold plainDays
    omega
  -- counting without leap days is monotone, so a day is in the year that its plain count names
  obtain ⟨hfirst, hlast, hnext⟩ := plainDays_year hy0 hy1
  refine ⟨⟨hy0, hy1⟩, ?_, ?_⟩
  · rcases Int.lt_or_le n (daysBefore y) with hbefore | hbefore
    · -- a day before this year would have been found in the year before
      have hpos : y ≠ 0 := by
        rintro rfl
        exact Int.not_le.mpr hbefore h0
      obtain ⟨-, hlast', hnext'⟩ := plainDays_year (y := y - 1) (by omega) (by omega)
      obtain ⟨-, hb⟩ := daysBefore_bounds (y := y - 1) (by omega) (by omega)
      rw [Int.sub_add_cancel, if_neg (by omega)] at hnext'
      have hle := plainDays_mono (n := daysBefore (y - 1) + yearLength (y - 1) - 1) h0 (by omega)
        (by omega)
      omega
    · omega
  · rcases Int.lt_or_le n (daysBefore y + yearLength y) with hbehind | hbehind
    · omega
    · -- a day behind this year would have been found in the next one, or lies behind the era
      have hend : y ≠ 399 := by
        rintro rfl
        have hera : daysBefore 399 + yearLength 399 = 146097 := by decide
        omega
      rw [if_neg hend] at hnext
      obtain ⟨hfirst', -, -⟩ := plainDays_year (y := y + 1) (by omega) (by omega)
      obtain ⟨hb, -⟩ := daysBefore_bounds (y := y + 1) (by omega) (by omega)
      have hle := plainDays_mono (m := daysBefore (y + 1)) hb (by omega) h1
      omega

/-! ### Months of a year -/

/-- The number of a month whose number behind March is given. -/
def monthBehind (m : Int) : Int := if m < 10 then m + 3 else m - 9

/-- The days of a year before a month of it, both counted from March. -/
def monthStart (m : Int) : Int := (153 * m + 2) / 5

/-- The year of a date, reckoned from March. -/
def marchYear (d : Date) : Int := if d.month ≤ 2 then d.year - 1 else d.year

/-- The number of months of a date behind March. -/
def marchMonth (d : Date) : Int := (d.month + 9) % 12

/-- The days of its year before a date, reckoned from March. -/
def dayOfYear (d : Date) : Int := monthStart d.marchMonth + d.day - 1

theorem toDays_eq (d : Date) :
    d.toDays = d.marchYear / 400 * 146097 + (daysBefore (d.marchYear % 400) + d.dayOfYear)
      - 719468 := rfl

/-- The date of a day of a year. -/
def ofDayOfYear (year day : Int) : Date :=
  let m := (5 * day + 2) / 153
  let month := monthBehind m
  ⟨year + (if month ≤ 2 then 1 else 0), month.toNat, (day - monthStart m + 1).toNat⟩

theorem ofDays_eq (n : Int) :
    ofDays n =
      let z := n + 719468
      let y := plainDays (z % 146097) / 365
      ofDayOfYear (y + z / 146097 * 400) (z % 146097 - (365 * y + y / 4 - y / 100)) := rfl

theorem isLeap_emod (y : Int) : isLeap (y % 400 + 1) = isLeap (y + 1) := by
  unfold isLeap
  have h4 : (y % 400 + 1) % 4 = (y + 1) % 4 := by omega
  have h100 : (y % 400 + 1) % 100 = (y + 1) % 100 := by omega
  have h400 : (y % 400 + 1) % 400 = (y + 1) % 400 := by omega
  rw [h4, h100, h400]

theorem yearLength_emod (y : Int) : yearLength (y % 400) = yearLength y := by
  unfold yearLength
  rw [isLeap_emod]

/-- A month ends where the next one begins, or with the year. -/
theorem monthLength_monthBehind {m : Int} (h0 : 0 ≤ m) (h1 : m < 12) (y : Int) :
    (monthLength (y + if monthBehind m ≤ 2 then 1 else 0) (monthBehind m).toNat : Int)
      = min (monthStart (m + 1)) (yearLength y) - monthStart m := by
  -- February is the last month, and the only one that depends on the year
  by_cases hlast : m = 11
  · subst hlast
    unfold yearLength
    show ((if isLeap (y + 1) then 29 else 28 : Nat) : Int) = _
    split <;> rfl
  · have hnext : monthStart (m + 1) ≤ yearLength y := by
      unfold monthStart
      rcases yearLength_cases y with h | h <;> omega
    rw [Int.min_eq_left hnext]
    have hcases : m = 0 ∨ m = 1 ∨ m = 2 ∨ m = 3 ∨ m = 4 ∨ m = 5 ∨ m = 6 ∨ m = 7 ∨ m = 8 ∨
        m = 9 ∨ m = 10 := by omega
    rcases hcases with rfl | rfl | rfl | rfl | rfl | rfl | rfl | rfl | rfl | rfl | rfl <;> rfl

/-- The date of a day of a year is one of that year, in the month that the day belongs to. -/
theorem marchMonth_ofDayOfYear {year day : Int} (h0 : 0 ≤ day) (h1 : day ≤ 365) :
    (ofDayOfYear year day).marchMonth = (5 * day + 2) / 153 := by
  unfold marchMonth ofDayOfYear monthBehind
  dsimp only
  split <;> omega

theorem marchYear_ofDayOfYear {year day : Int} (h0 : 0 ≤ day) (h1 : day ≤ 365) :
    (ofDayOfYear year day).marchYear = year := by
  unfold marchYear ofDayOfYear monthBehind
  dsimp only
  split <;> split <;> split <;> omega

theorem dayOfYear_ofDayOfYear {year day : Int} (h0 : 0 ≤ day) (h1 : day ≤ 365) :
    (ofDayOfYear year day).dayOfYear = day := by
  unfold dayOfYear
  rw [marchMonth_ofDayOfYear h0 h1]
  unfold ofDayOfYear monthStart
  dsimp only
  omega

theorem isValid_ofDayOfYear {year day : Int} (h0 : 0 ≤ day) (h1 : day < yearLength year) :
    (ofDayOfYear year day).isValid := by
  have hle : day ≤ 365 := by rcases yearLength_cases year with h | h <;> omega
  have hlen := monthLength_monthBehind (m := (5 * day + 2) / 153) (by omega) (by omega) year
  have hend : day < monthStart ((5 * day + 2) / 153 + 1) := by
    unfold monthStart
    omega
  have hstart : monthStart ((5 * day + 2) / 153) ≤ day := by
    unfold monthStart
    omega
  have hmonth : 1 ≤ monthBehind ((5 * day + 2) / 153) ∧ monthBehind ((5 * day + 2) / 153) ≤ 12 := by
    unfold monthBehind
    split <;> omega
  unfold isValid ofDayOfYear
  simp only [Bool.and_eq_true, decide_eq_true_eq]
  omega

/-- **A date that exists** is that of its day of the year. -/
theorem ofDayOfYear_dayOfYear {d : Date} (h : d.isValid) :
    (0 ≤ d.dayOfYear ∧ d.dayOfYear < yearLength d.marchYear) ∧
      ofDayOfYear d.marchYear d.dayOfYear = d := by
  obtain ⟨year, month, day⟩ := d
  simp only [isValid, Bool.and_eq_true, decide_eq_true_eq] at h
  obtain ⟨⟨⟨hm1, hm12⟩, hd1⟩, hd⟩ := h
  generalize hmarch : marchMonth ⟨year, month, day⟩ = m
  have hm : m = ((month : Int) + 9) % 12 := hmarch.symm
  -- months are counted from March, so that a leap day comes last in its year
  have hmonth : monthBehind m = month := by
    unfold monthBehind
    split <;> omega
  have hyear : marchYear ⟨year, month, day⟩ + (if (month : Int) ≤ 2 then 1 else 0) = year := by
    unfold marchYear
    dsimp only
    split <;> split <;> omega
  have hlen := monthLength_monthBehind (m := m) (by omega) (by omega)
    (marchYear ⟨year, month, day⟩)
  rw [hmonth, hyear, Int.toNat_natCast] at hlen
  have hday : dayOfYear ⟨year, month, day⟩ = monthStart m + day - 1 := by
    unfold dayOfYear
    rw [hmarch]
  have hfound : (5 * (monthStart m + day - 1) + 2) / 153 = m := by
    unfold monthStart at hlen ⊢
    omega
  rw [hday]
  refine ⟨⟨?_, by omega⟩, ?_⟩
  · unfold monthStart
    omega
  · unfold ofDayOfYear
    dsimp only
    rw [hfound, hmonth, hyear, Int.toNat_natCast]
    congr 1
    omega

/-! ### There and back -/

/-- The date of a day that is given by its era, its year and its place in the year. -/
theorem ofDays_day {era y k : Int} (h0 : 0 ≤ y) (h1 : y < 400) (hk0 : 0 ≤ k)
    (hk1 : k < yearLength y) :
    ofDays (era * 146097 + (daysBefore y + k) - 719468) = ofDayOfYear (y + era * 400) k := by
  obtain ⟨hb0, hb1⟩ := daysBefore_bounds h0 h1
  rw [ofDays_eq]
  dsimp only
  rw [Int.sub_add_cancel]
  have hera : (era * 146097 + (daysBefore y + k)) / 146097 = era := by omega
  have hday : (era * 146097 + (daysBefore y + k)) % 146097 = daysBefore y + k := by omega
  have hplace : daysBefore y + k - (365 * y + y / 4 - y / 100) = k := by
    unfold daysBefore
    omega
  rw [hera, hday, year_of_daysBefore h0 h1 hk0 hk1, hplace]

/-- Every day has an era, a year and a place in the year. -/
theorem exists_day (n : Int) : ∃ era y k, (0 ≤ y ∧ y < 400) ∧ (0 ≤ k ∧ k < yearLength y) ∧
    n = era * 146097 + (daysBefore y + k) - 719468 := by
  obtain ⟨hy, hk⟩ := day_of_plainDays (n := (n + 719468) % 146097) (by omega) (by omega) rfl
  exact ⟨(n + 719468) / 146097, _, _, hy, hk, by omega⟩

/-- **Every day is that of its date.** -/
theorem toDays_ofDays (n : Int) : (ofDays n).toDays = n := by
  obtain ⟨era, y, k, ⟨hy0, hy1⟩, ⟨hk0, hk1⟩, rfl⟩ := exists_day n
  have hle : k ≤ 365 := by rcases yearLength_cases y with h | h <;> omega
  rw [ofDays_day hy0 hy1 hk0 hk1, toDays_eq, marchYear_ofDayOfYear hk0 hle,
    dayOfYear_ofDayOfYear hk0 hle]
  have hera : (y + era * 400) / 400 = era := by omega
  have hyear : (y + era * 400) % 400 = y := by omega
  rw [hera, hyear]

/-- **The date of a day exists.** -/
theorem isValid_ofDays (n : Int) : (ofDays n).isValid := by
  obtain ⟨era, y, k, ⟨hy0, hy1⟩, ⟨hk0, hk1⟩, rfl⟩ := exists_day n
  rw [ofDays_day hy0 hy1 hk0 hk1]
  have hyear : (y + era * 400) % 400 = y := by omega
  rw [← hyear, yearLength_emod] at hk1
  exact isValid_ofDayOfYear hk0 hk1

/-- **Every date that exists is that of its day.** -/
theorem ofDays_toDays {d : Date} (h : d.isValid) : ofDays d.toDays = d := by
  obtain ⟨⟨hk0, hk1⟩, hd⟩ := ofDayOfYear_dayOfYear h
  rw [← yearLength_emod] at hk1
  rw [toDays_eq, ofDays_day (by omega) (by omega) hk0 hk1]
  have hyear : d.marchYear % 400 + d.marchYear / 400 * 400 = d.marchYear := by omega
  rw [hyear, hd]

end Date

/-! ### Instants in order -/

namespace Instant

theorem le_refl (t : Instant) : t ≤ t := .inr ⟨rfl, Nat.le_refl _⟩

theorem le_total (s t : Instant) : s ≤ t ∨ t ≤ s := by
  show (s.seconds < t.seconds ∨ s.seconds = t.seconds ∧ s.nanos ≤ t.nanos) ∨
    (t.seconds < s.seconds ∨ t.seconds = s.seconds ∧ t.nanos ≤ s.nanos)
  omega

theorem le_trans {r s t : Instant} (hrs : r ≤ s) (hst : s ≤ t) : r ≤ t := by
  show r.seconds < t.seconds ∨ r.seconds = t.seconds ∧ r.nanos ≤ t.nanos
  change r.seconds < s.seconds ∨ r.seconds = s.seconds ∧ r.nanos ≤ s.nanos at hrs
  change s.seconds < t.seconds ∨ s.seconds = t.seconds ∧ s.nanos ≤ t.nanos at hst
  omega

end Instant

end Flowgraph
