import Mathlib.Tactic.IntervalCases
import SessionVault.Time.Calendar

/-!
# The calendar counts days forth and back

`Date.ofDayNumber` takes a day apart into the era of 400 years, the century, the four years and the year that it
falls into (`Era.split`), and `Date.dayNumber` puts these together again:

* `dayNumber_ofDayNumber` — the day of the date of a day is the day itself;
* `isValid_ofDayNumber` — the date of a day is in the calendar;
* `year_ofDayNumber` — the days of the instants fall into the years from -262143 to 262142.
-/

namespace SessionVault.Time

/-! ### Days of an era -/

/-- A day of an era as its century, its four years, its year and the day of that year. -/
structure Era where
  century : Nat
  quad : Nat
  single : Nat
  day : Nat

namespace Era

def split (dayOfEra : Nat) : Era :=
  let century := min 3 (dayOfEra / 36524)
  let rest := dayOfEra - century * 36524
  let quad := rest / 1461
  let rest := rest - quad * 1461
  let single := min 3 (rest / 365)
  ⟨century, quad, single, rest - single * 365⟩

def year (e : Era) : Nat := 100 * e.century + 4 * e.quad + e.single

def month (e : Era) : Nat := (5 * e.day + 2) / 153

theorem split_sum {n : Nat} (h : n < 146097) :
    (split n).century ≤ 3 ∧ (split n).quad ≤ 24 ∧ (split n).single ≤ 3 ∧ (split n).day ≤ 365 ∧
      36524 * (split n).century + 1461 * (split n).quad + 365 * (split n).single + (split n).day = n := by
  simp only [split]
  omega

/-- Only the last year of four has a day more, and the last four years of a century have it only if the century
is the last of the era. -/
theorem split_leap {n : Nat} (hd : (split n).day = 365) :
    (split n).single = 3 ∧ ((split n).quad < 24 ∨ (split n).century = 3) := by
  simp only [split] at hd ⊢
  omega

theorem year_lt {n : Nat} (h : n < 146097) : (split n).year < 400 := by
  obtain ⟨hc, hq, hs, _, _⟩ := split_sum h
  rw [year]
  omega

/-- The days of an era before one of its days, by years. -/
theorem days_year {n : Nat} (h : n < 146097) :
    365 * (split n).year + (split n).year / 4 - (split n).year / 100 + (split n).day = n := by
  obtain ⟨hc, hq, hs, _, hsum⟩ := split_sum h
  have h4 : (split n).year / 4 = 25 * (split n).century + (split n).quad := by rw [year]; omega
  have h100 : (split n).year / 100 = (split n).century := by rw [year]; omega
  rw [h4, h100, year]
  omega

/-! ### Months -/

theorem month_le (e : Era) (h : e.day ≤ 365) : e.month ≤ 11 := by
  rw [month]
  omega

/-- The month that a day falls into starts at the latest on that day. -/
theorem monthStart_month (e : Era) : monthStart e.month ≤ e.day := by
  rw [month, monthStart]
  omega

end Era

/-! ### Dates -/

/-- The date of a day, by the parts of its day of the era. -/
theorem ofDayNumber_eq (n : Int) :
    Date.ofDayNumber n =
      let e := Era.split ((n + epochOffset) % 146097).toNat
      let year := (n + epochOffset) / 146097 * 400 + (e.year : Nat)
      let day := e.day - monthStart e.month + 1
      if e.month < 10 then ⟨year, e.month + 3, day⟩ else ⟨year + 1, e.month - 9, day⟩ := rfl

theorem dayOfEra_lt (n : Int) : ((n + epochOffset) % 146097).toNat < 146097 := by
  have h0 := Int.emod_nonneg (n + epochOffset) (b := 146097) (by decide)
  have h1 := Int.emod_lt_of_pos (n + epochOffset) (b := 146097) (by decide)
  omega

/-- A day is the start of its era and the days into it. -/
theorem era_add (n : Int) :
    (n + epochOffset) / 146097 * 146097 + ((n + epochOffset) % 146097).toNat - epochOffset = n := by
  have h0 := Int.emod_nonneg (n + epochOffset) (b := 146097) (by decide)
  have h1 := Int.mul_ediv_add_emod (n + epochOffset) 146097
  rw [Int.toNat_of_nonneg h0]
  omega

/-- The year of an era and the month of that year, found again in a date. -/
theorem dayNumber_of_parts (era : Int) (y m k : Nat) (hy : y < 400) (hm : m ≤ 11) :
    (if m < 10 then (⟨era * 400 + y, m + 3, k + 1⟩ : Date) else ⟨era * 400 + y + 1, m - 9, k + 1⟩).dayNumber =
      era * 146097 + (365 * y + y / 4 - y / 100 + monthStart m + k : Nat) - epochOffset := by
  have hy4 : ((era * 400 + y) % 400).toNat = y := by omega
  have he : (era * 400 + (y : Int)) / 400 = era := by omega
  split
  · have hm3 : ¬(m + 3 ≤ 2) := by omega
    simp only [Date.dayNumber, hm3, if_false, hy4, he, eraDays, Nat.add_sub_cancel]
    rfl
  · have hm2 : m - 9 ≤ 2 := by omega
    have h9 : m - 9 + 9 = m := by omega
    simp only [Date.dayNumber, hm2, if_true, Int.add_sub_cancel, hy4, he, eraDays, Nat.add_sub_cancel, h9]
    rfl

theorem dayNumber_ofDayNumber (n : Int) : (Date.ofDayNumber n).dayNumber = n := by
  have hlt := dayOfEra_lt n
  have hmonth := Era.month_le _ (Era.split_sum hlt).2.2.2.1
  have hdays := Era.days_year hlt
  have hstart := Era.monthStart_month (Era.split ((n + epochOffset) % 146097).toNat)
  rw [ofDayNumber_eq]
  dsimp only
  rw [dayNumber_of_parts _ _ _ _ (Era.year_lt hlt) hmonth]
  refine Eq.trans ?_ (era_add n)
  congr 3
  omega

/-- The year that starts in March of the last year of four has a February of 29 days, if it has a day more. -/
theorem isLeapYear_of_split {n : Nat} (h : n < 146097) (era : Int) (hd : (Era.split n).day = 365) :
    isLeapYear (era * 400 + (Era.split n).year + 1) = true := by
  obtain ⟨hc, hq, _, _, _⟩ := Era.split_sum h
  obtain ⟨hs, hlast⟩ := Era.split_leap hd
  simp only [isLeapYear, Era.year, hs, Bool.and_eq_true, Bool.or_eq_true, beq_iff_eq, bne_iff_ne]
  omega

/-- A day lies in its month. -/
theorem day_le_monthLength (y : Int) (m d : Nat) (hm : m ≤ 11) (hd : m = (5 * d + 2) / 153) (hle : d ≤ 365)
    (hleap : d = 365 → isLeapYear (y + 1) = true) :
    d - monthStart m + 1 ≤ if m < 10 then monthLength y (m + 3) else monthLength (y + 1) (m - 9) := by
  by_cases h11 : m = 11
  · subst h11
    simp only [monthStart, monthLength]
    by_cases h365 : d = 365
    · simp [hleap h365, h365]
    · simp only [Nat.reduceLT, Nat.reduceSub, Nat.reduceMul, Nat.reduceAdd, Nat.reduceDiv, if_true, if_false]
      split <;> omega
  · have hm' : m ≤ 10 := by omega
    interval_cases m <;> simp only [monthStart, monthLength] <;> norm_num <;> omega

theorem isValid_ofDayNumber (n : Int) : (Date.ofDayNumber n).isValid = true := by
  have hlt := dayOfEra_lt n
  have hday := (Era.split_sum hlt).2.2.2.1
  have hmonth := Era.month_le _ hday
  have hlen := day_le_monthLength ((n + epochOffset) / 146097 * 400 + (Era.split _).year) _ _ hmonth rfl hday
    fun h => isLeapYear_of_split hlt _ h
  rw [ofDayNumber_eq]
  dsimp only
  split
  · rename_i hm
    rw [if_pos hm] at hlen
    simp only [Date.isValid, Bool.and_eq_true, decide_eq_true_eq]
    omega
  · rename_i hm
    rw [if_neg hm] at hlen
    simp only [Date.isValid, Bool.and_eq_true, decide_eq_true_eq]
    omega

/-- A day not before the first of January of the year -262143 belongs to a year that starts in March of -262143 or
later, or to one of the last months of the year before. -/
theorem year_ge_of_sum {era : Int} {c q s d : Nat} (hc : c ≤ 3) (hq : q ≤ 24) (hs : s ≤ 3) (hd : d ≤ 365)
    (hge : -95745824 ≤ era * 146097 + (36524 * c + 1461 * q + 365 * s + d : Nat))
    (hlt : 36524 * c + 1461 * q + 365 * s + d < 146097) :
    -262143 ≤ era * 400 + (100 * c + 4 * q + s : Nat) ∨
      -262144 ≤ era * 400 + (100 * c + 4 * q + s : Nat) ∧ 306 ≤ d := by
  have hera : -656 ≤ era := by omega
  rcases Int.lt_or_eq_of_le hera with h | rfl
  · exact Or.inl (by omega)
  · have hdays : 93808 ≤ 36524 * c + 1461 * q + 365 * s + d := by omega
    obtain rfl | hc2 | hc2 : c = 2 ∨ c ≤ 1 ∨ c = 3 := by omega
    · omega
    · omega
    · omega

/-- A day not after the last of December of the year 262142 belongs to a year that starts in March of 262141 or
earlier, or to one of the first months of the year behind it. -/
theorem year_le_of_sum {era : Int} {c q s d : Nat} (hc : c ≤ 3) (hq : q ≤ 24) (hs : s ≤ 3)
    (hle : era * 146097 + (36524 * c + 1461 * q + 365 * s + d : Nat) ≤ 95745704)
    (hlt : 36524 * c + 1461 * q + 365 * s + d < 146097) :
    era * 400 + (100 * c + 4 * q + s : Nat) ≤ 262141 ∨
      era * 400 + (100 * c + 4 * q + s : Nat) ≤ 262142 ∧ d < 306 := by
  have hera : era ≤ 655 := by omega
  rcases Int.lt_or_eq_of_le hera with h | rfl
  · exact Or.inl (by omega)
  · have hdays : 36524 * c + 1461 * q + 365 * s + d ≤ 52169 := by omega
    obtain rfl | hc2 : c = 1 ∨ c = 0 := by omega
    · omega
    · omega

/-- The days from the first to the last instant have years that instants may have. -/
theorem year_ofDayNumber {n : Int} (hge : -96465292 ≤ n) (hle : n ≤ 95026236) :
    -262143 ≤ (Date.ofDayNumber n).year ∧ (Date.ofDayNumber n).year ≤ 262142 := by
  have hlt := dayOfEra_lt n
  have hera := era_add n
  obtain ⟨hc, hq, hs, hday, hsum⟩ := Era.split_sum hlt
  rw [ofDayNumber_eq]
  dsimp only
  generalize Era.split ((n + epochOffset) % 146097).toNat = e at *
  rw [← hsum] at hera hlt
  have hoff : epochOffset = 719468 := rfl
  have hlow := @year_ge_of_sum ((n + epochOffset) / 146097) _ _ _ _ hc hq hs hday (by omega) hlt
  have hhigh := @year_le_of_sum ((n + epochOffset) / 146097) _ _ _ _ hc hq hs (by omega) hlt
  rw [← Era.year] at hlow hhigh
  have hm : e.month = (5 * e.day + 2) / 153 := rfl
  by_cases h10 : e.month < 10
  · simp only [if_pos h10]
    omega
  · simp only [if_neg h10]
    omega

end SessionVault.Time
