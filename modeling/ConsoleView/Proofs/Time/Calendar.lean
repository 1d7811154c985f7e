/-
# ConsoleView.Proofs.Time.Calendar -- day numbers count the days of the calendar

The calendar is told by its rules: which years are leap years, how long the months
are, and that the days of years and months add up to a date's distance from
1970-01-01 (`Date.daysSinceEpoch`).  The day number of a date is that distance
(`dayNumber_eq_daysSinceEpoch`), although it is computed from years that begin in
March.

The date of a day number is found back from the date (`ofDayNumber_dayNumber`).  For
the other way round, the calendar is walked day by day: the next date is one day
later (`daysSinceEpoch_next`) and every date is the next of some date, so every
number, before and after 1970, is the distance of a date (`exists_valid_days`).
-/
import ConsoleView.Time.Calendar
import Mathlib.Algebra.BigOperators.Group.Finset.Basic
import Mathlib.Algebra.BigOperators.Intervals
import Mathlib.Order.Interval.Finset.Nat
import Mathlib.Tactic.Ring
import Mathlib.Tactic.Linarith

namespace ConsoleView.Time

set_option autoImplicit false

/-! ## The rules of the calendar -/

/-- Every fourth year is a leap year, but of the hundredth ones only the four hundredth. -/
def isLeap (year : Int) : Bool := 4 ∣ year ∧ (100 ∣ year → 400 ∣ year)

/-- The days of a month, January being month one. -/
def monthLength (leap : Bool) : Nat → Nat
  | 2 => if leap then 29 else 28
  | 4 | 6 | 9 | 11 => 30
  | _ => 31

def daysToMonth (leap : Bool) (month : Nat) : Nat := ∑ m ∈ Finset.Ico 1 month, monthLength leap m

def yearLength (leap : Bool) : Nat := ∑ m ∈ Finset.Icc 1 12, monthLength leap m

/-- The days of `n` years, the first of which is `year`. -/
def daysOfYears (year : Int) (n : Nat) : Nat := ∑ i ∈ Finset.range n, yearLength (isLeap (year + i))

/-- The days from the start of 1970 to that of `year`, less than zero if `year` is earlier. -/
def daysToYear (year : Int) : Int :=
  daysOfYears 1970 (year - 1970).toNat - daysOfYears year (1970 - year).toNat

namespace Date

/-- The year has such a month, and the month such a day. -/
structure Valid (d : Date) : Prop where
  one_le_month : 1 ≤ d.month
  month_le : d.month ≤ 12
  one_le_day : 1 ≤ d.day
  day_le : d.day ≤ monthLength (isLeap d.year) d.month

instance (d : Date) : Decidable d.Valid :=
  decidable_of_iff (1 ≤ d.month ∧ d.month ≤ 12 ∧ 1 ≤ d.day ∧
      d.day ≤ monthLength (isLeap d.year) d.month)
    ⟨fun ⟨a, b, c, e⟩ => ⟨a, b, c, e⟩, fun ⟨a, b, c, e⟩ => ⟨a, b, c, e⟩⟩

/-- The days from 1970-01-01 to a date. -/
def daysSinceEpoch (d : Date) : Int :=
  daysToYear d.year + daysToMonth (isLeap d.year) d.month + ((d.day : Int) - 1)

def next (d : Date) : Date :=
  if d.day < monthLength (isLeap d.year) d.month then { d with day := d.day + 1 }
  else if d.month < 12 then { d with month := d.month + 1, day := 1 }
  else { year := d.year + 1, month := 1, day := 1 }

example : next ⟨1900, 2, 28⟩ = ⟨1900, 3, 1⟩ ∧ next ⟨0, 2, 28⟩ = ⟨0, 2, 29⟩ ∧
    next ⟨-1, 12, 31⟩ = ⟨0, 1, 1⟩ := by decide

end Date

/-! ## Years -/

theorem isLeap_iff {year : Int} : isLeap year = true ↔ 4 ∣ year ∧ (100 ∣ year → 400 ∣ year) :=
  decide_eq_true_iff

/-- A year is as much longer than 365 days as the fourth, hundredth and four hundredth years up to
it are more than those before it. -/
theorem yearLength_eq (year : Int) :
    (yearLength (isLeap year) : Int) =
      365 + (year / 4 - (year - 1) / 4) - (year / 100 - (year - 1) / 100) +
        (year / 400 - (year - 1) / 400) := by
  have lengths : yearLength true = 366 ∧ yearLength false = 365 := by decide
  cases leap : isLeap year with
  | true =>
      obtain ⟨fourth, hundredth⟩ := isLeap_iff.1 leap
      rw [lengths.1]
      omega
  | false =>
      have common := (not_congr isLeap_iff).1 (ne_true_of_eq_false leap)
      rw [lengths.2]
      omega

theorem daysOfYears_succ (year : Int) (n : Nat) :
    daysOfYears year (n + 1) = daysOfYears year n + yearLength (isLeap (year + n)) :=
  Finset.sum_range_succ _ _

theorem daysOfYears_succ' (year : Int) (n : Nat) :
    daysOfYears year (n + 1) = yearLength (isLeap year) + daysOfYears (year + 1) n := by
  have shift (i : Nat) : year + ((i + 1 : Nat) : Int) = year + 1 + i := by omega
  rw [daysOfYears, Finset.sum_range_succ', daysOfYears, Nat.add_comm]
  simp only [shift, Nat.cast_zero, add_zero]

theorem daysToYear_succ (year : Int) :
    daysToYear (year + 1) = daysToYear year + yearLength (isLeap year) := by
  unfold daysToYear
  rcases lt_or_ge year 1970 with before | after
  · have ahead : (year + 1 - 1970).toNat = 0 ∧ (year - 1970).toNat = 0 := by omega
    have back : (1970 - year).toNat = (1970 - (year + 1)).toNat + 1 := by omega
    rw [ahead.1, ahead.2, back, daysOfYears_succ']
    omega
  · have back : (1970 - (year + 1)).toNat = 0 ∧ (1970 - year).toNat = 0 := by omega
    have ahead : (year + 1 - 1970).toNat = (year - 1970).toNat + 1 := by omega
    have last : 1970 + ((year - 1970).toNat : Int) = year := by omega
    rw [back.1, back.2, ahead, daysOfYears_succ, last]
    simp only [daysOfYears, Finset.range_zero, Finset.sum_empty]
    omega

theorem daysToYear_eq (year : Int) :
    daysToYear year =
      365 * year + (year - 1) / 4 - (year - 1) / 100 + (year - 1) / 400 - 719527 := by
  induction year using Int.inductionOn' (b := 1970) with
  | zero => decide
  | succ year _ ih =>
      rw [daysToYear_succ, ih, yearLength_eq, add_sub_cancel_right]
      ring
  | pred year _ ih =>
      have step := daysToYear_succ (year - 1)
      rw [sub_add_cancel, ih, yearLength_eq] at step
      linarith

theorem daysToYear_le {year later : Int} (le : year ≤ later) :
    daysToYear year ≤ daysToYear later := by
  refine monotone_int_of_le_succ (fun year => ?_) le
  rw [daysToYear_succ]
  omega

/-! ## Months -/

theorem daysToMonth_succ (leap : Bool) {month : Nat} (positive : 1 ≤ month) :
    daysToMonth leap (month + 1) = daysToMonth leap month + monthLength leap month :=
  Finset.sum_Ico_succ_top positive _

/-- The number of a month counted from March. -/
def fromMarch (month : Nat) : Int := if month ≤ 2 then (month : Int) + 9 else (month : Int) - 3

/-- A year begins 306 days after the first of March before it. -/
theorem daysToMonth_eq (leap : Bool) :
    ∀ month ∈ Finset.Icc 1 12,
      (daysToMonth leap month : Int) =
        daysBeforeMonth (fromMarch month) - 306 + if month ≤ 2 then 0 else yearLength leap := by
  cases leap <;> decide

theorem daysToMonth_add_le (leap : Bool) :
    ∀ month ∈ Finset.Icc 1 12,
      daysToMonth leap month + monthLength leap month ≤ yearLength leap := by
  cases leap <;> decide

theorem monthLength_bounds (leap : Bool) (month : Nat) :
    28 ≤ monthLength leap month ∧ monthLength leap month ≤ 31 := by
  unfold monthLength
  split <;> cases leap <;> decide

theorem one_le_monthLength (leap : Bool) (month : Nat) : 1 ≤ monthLength leap month :=
  Nat.le_trans (by decide) (monthLength_bounds leap month).1

/-- A month ends before the next one begins. -/
theorem daysBeforeMonth_add_le (leap : Bool) :
    ∀ month ∈ Finset.Icc 1 12,
      daysBeforeMonth (fromMarch month) + monthLength leap month ≤
        daysBeforeMonth (fromMarch month + 1) := by
  cases leap <;> decide

/-- The last day of a year that ends with February is its leap day. -/
theorem daysBeforeMonth_add_le_year (leap : Bool) :
    ∀ month ∈ Finset.Icc 1 12,
      daysBeforeMonth (fromMarch month) + monthLength leap month ≤
        if month ≤ 2 ∧ leap then 366 else 365 := by
  cases leap <;> decide

/-! ## Years from March -/

/-- The first of March of a year is 306 days before the next year. -/
theorem marchYear_days (year : Int) :
    year / 400 * daysPerEra + daysBeforeYear (year % 400) - epochShift =
      daysToYear (year + 1) - 306 := by
  rw [daysToYear_eq]
  unfold daysBeforeYear daysPerEra epochShift
  omega

/-- The hundredth years of an era begin at multiples of one number of days; only the last of the
four has a day more. -/
theorem century_of_days {century rest : Int} (bounds : 0 ≤ century ∧ century ≤ 3)
    (start : 0 ≤ rest) (stop : rest < 36524 ∨ century = 3 ∧ rest = 36524) :
    (36524 * century + rest) / 36524 - (36524 * century + rest) / 146096 = century := by
  rcases stop with within | ⟨rfl, rfl⟩
  · have quotient : (36524 * century + rest) / 36524 = century := by omega
    have inside : (36524 * century + rest) / 146096 = 0 := by omega
    rw [quotient, inside, sub_zero]
  · decide

/-- The leap day at the end of a year of an era stands in the last of four years, and in the last of
a hundred only if they end the era. -/
theorem leap_of_parts {century cycle later : Int} (bounds : 0 ≤ later ∧ later ≤ 3)
    (leap : isLeap (100 * century + 4 * cycle + later + 1) = true)
    (inEra : 0 ≤ century ∧ century ≤ 3) : later = 3 ∧ (cycle = 24 → century = 3) := by
  obtain ⟨⟨fours, fourth⟩, hundredth⟩ := isLeap_iff.1 leap
  obtain rfl : later = 3 := by omega
  refine ⟨rfl, fun last => ?_⟩
  obtain ⟨eras, fourHundredth⟩ := hundredth ⟨century + 1, by omega⟩
  omega

/-- The year of an era is found from the number of a day in it.  The days divided by 1460 are the
fours of years before the day, or one more near the end of a four; the hundreds, which mostly end
without a leap day, are added again.  What this leaves is 365 for each year, and less than that to
spare. -/
theorem year_of_days {year day days : Int} (inEra : 0 ≤ year ∧ year < 400)
    (start : 0 ≤ day) (stop : day ≤ 365) (leapDay : day = 365 → isLeap (year + 1) = true)
    (counted : days = daysBeforeYear year + day) :
    (days - days / 1460 + days / 36524 - days / 146096) / 365 = year := by
  obtain ⟨century, cycle, later, rfl, hundredth, fourth, last⟩ : ∃ century cycle later : Int,
      year = 100 * century + 4 * cycle + later ∧ (0 ≤ century ∧ century ≤ 3) ∧
        (0 ≤ cycle ∧ cycle ≤ 24) ∧ (0 ≤ later ∧ later ≤ 3) :=
    ⟨year / 100, year % 100 / 4, year % 4, by omega⟩
  have parts : days = 36524 * century + (1461 * cycle + 365 * later + day) := by
    unfold daysBeforeYear at counted
    omega
  have ends : day = 365 → later = 3 ∧ (cycle = 24 → century = 3) :=
    fun full => leap_of_parts last (leapDay full) hundredth
  clear counted leapDay inEra
  have full : 1461 * cycle + 365 * later + day < 36524 ∨
      century = 3 ∧ 1461 * cycle + 365 * later + day = 36524 := by omega
  have centuries := century_of_days hundredth (by omega) full
  rw [← parts] at centuries
  have leap : day ≤ 364 ∨ later = 3 ∧ day = 365 := by omega
  clear ends full
  obtain ⟨spare, cycles, small⟩ : ∃ spare : Int,
      days / 1460 = 25 * century + cycle + day - spare ∧ 0 ≤ spare ∧ spare < 365 := by
    rcases leap with common | ⟨rfl, rfl⟩
    · have steps : days / 1460 = 25 * century + cycle ∨
          days / 1460 = 25 * century + cycle + 1 ∧ 0 < day := by omega
      rcases steps with asMany | ⟨oneMore, positive⟩
      · exact ⟨day, by omega, by omega⟩
      · exact ⟨day - 1, by omega, by omega⟩
    · exact ⟨364, by omega, by omega⟩
  have whole : days - days / 1460 + days / 36524 - days / 146096 =
      spare + 365 * (100 * century + 4 * cycle + later) := by
    linarith only [parts, centuries, cycles]
  rw [whole, Int.add_mul_ediv_left _ _ (by decide), Int.ediv_eq_zero_of_lt small.1 small.2,
    zero_add]

/-- The month is found from the number of a day in a year that begins in March. -/
theorem month_of_days {month day : Int} (start : daysBeforeMonth month ≤ day)
    (stop : day < daysBeforeMonth (month + 1)) : (5 * day + 2) / 153 = month := by
  unfold daysBeforeMonth at start stop
  omega

namespace Date

variable {d : Date}

theorem Valid.month_mem (valid : d.Valid) : d.month ∈ Finset.Icc 1 12 :=
  Finset.mem_Icc.2 ⟨valid.one_le_month, valid.month_le⟩

/-! ## The day number -/

/-- The year of a date, if years begin in March. -/
def marchYear (d : Date) : Int := if d.month ≤ 2 then d.year - 1 else d.year

/-- The days of that year before a date. -/
def marchDay (d : Date) : Int := daysBeforeMonth (fromMarch d.month) + ((d.day : Int) - 1)

theorem dayNumber_eq_march (d : Date) :
    d.dayNumber = d.marchYear / 400 * daysPerEra + daysBeforeYear (d.marchYear % 400) +
      daysBeforeMonth (fromMarch d.month) + ((d.day : Int) - 1) - epochShift := rfl

theorem marchYear_of_le (early : d.month ≤ 2) : d.marchYear + 1 = d.year := by
  rw [marchYear, if_pos early, sub_add_cancel]

theorem marchYear_of_lt (late : ¬ d.month ≤ 2) : d.marchYear = d.year := if_neg late

/-- **The day number of a date is its distance from 1970-01-01.** -/
theorem dayNumber_eq_daysSinceEpoch (valid : d.Valid) : d.dayNumber = d.daysSinceEpoch := by
  have months := daysToMonth_eq (isLeap d.year) d.month valid.month_mem
  have years := marchYear_days d.marchYear
  rw [dayNumber_eq_march, daysSinceEpoch, months]
  by_cases early : d.month ≤ 2
  · rw [marchYear_of_le early] at years
    rw [if_pos early]
    omega
  · rw [marchYear_of_lt early, daysToYear_succ] at years
    rw [marchYear_of_lt early, if_neg early]
    omega

/-! ## The date of a day number -/

theorem marchDay_bounds (valid : d.Valid) :
    0 ≤ d.marchDay ∧ d.marchDay ≤ 365 ∧
      (d.marchDay = 365 → isLeap (d.marchYear % 400 + 1) = true) := by
  have year := daysBeforeMonth_add_le_year (isLeap d.year) d.month valid.month_mem
  have first := valid.one_le_day
  have last := valid.day_le
  have months : 0 ≤ daysBeforeMonth (fromMarch d.month) := by
    have := valid.one_le_month
    unfold daysBeforeMonth fromMarch
    split <;> omega
  unfold marchDay
  split at year
  · rename_i leap
    refine ⟨by omega, by omega, fun _ => ?_⟩
    rw [marchYear, if_pos leap.1]
    have := isLeap_iff.1 leap.2
    rw [isLeap_iff]
    omega
  · exact ⟨by omega, by omega, by omega⟩

/-- The era and the day of it, of a day number. -/
theorem era_of_dayNumber (valid : d.Valid) :
    (d.dayNumber + epochShift) / daysPerEra = d.marchYear / 400 ∧
      (d.dayNumber + epochShift) % daysPerEra =
        daysBeforeYear (d.marchYear % 400) + d.marchDay := by
  obtain ⟨start, stop, leapDay⟩ := marchDay_bounds valid
  rw [isLeap_iff] at leapDay
  have shifted : d.dayNumber + epochShift =
      d.marchYear / 400 * daysPerEra + (daysBeforeYear (d.marchYear % 400) + d.marchDay) := by
    rw [dayNumber_eq_march, marchDay]
    ring
  have within : 0 ≤ daysBeforeYear (d.marchYear % 400) + d.marchDay ∧
      daysBeforeYear (d.marchYear % 400) + d.marchDay < daysPerEra := by
    unfold daysBeforeYear daysPerEra
    omega
  rw [shifted]
  unfold daysPerEra at within ⊢
  omega

theorem month_of_marchDay (valid : d.Valid) : (5 * d.marchDay + 2) / 153 = fromMarch d.month := by
  have room := daysBeforeMonth_add_le (isLeap d.year) d.month valid.month_mem
  have first := valid.one_le_day
  have last := valid.day_le
  refine month_of_days ?_ ?_ <;> unfold marchDay <;> omega

theorem fromMarch_back (valid : d.Valid) :
    (if fromMarch d.month < 10 then fromMarch d.month + 3 else fromMarch d.month - 9) =
      d.month := by
  have first := valid.one_le_month
  have last := valid.month_le
  unfold fromMarch
  split <;> split <;> omega

/-- **A date is found back from its day number.** -/
theorem ofDayNumber_dayNumber (valid : d.Valid) : ofDayNumber d.dayNumber = d := by
  obtain ⟨start, stop, leapDay⟩ := marchDay_bounds valid
  obtain ⟨eras, days⟩ := era_of_dayNumber valid
  have inEra : 0 ≤ d.marchYear % 400 ∧ d.marchYear % 400 < 400 := by omega
  have yearBack : (if (d.month : Int) ≤ 2 then d.marchYear / 400 * 400 + d.marchYear % 400 + 1
      else d.marchYear / 400 * 400 + d.marchYear % 400) = d.year := by
    rw [Int.ediv_mul_add_emod]
    split
    · exact marchYear_of_le (by omega)
    · exact marchYear_of_lt (by omega)
  have dayBack : (d.marchDay - daysBeforeMonth (fromMarch d.month)).toNat + 1 = d.day := by
    have first := valid.one_le_day
    unfold marchDay
    omega
  unfold ofDayNumber
  dsimp only
  rw [days, eras, year_of_days inEra start stop leapDay rfl, add_sub_cancel_left,
    month_of_marchDay valid, fromMarch_back valid, yearBack, dayBack, Int.toNat_natCast]

/-! ## Day by day -/

theorem valid_next (valid : d.Valid) : d.next.Valid := by
  obtain ⟨month, month', day, day'⟩ := valid
  unfold next
  split
  · rename_i sameMonth
    exact ⟨month, month', Nat.le_add_left 1 _, sameMonth⟩
  · split
    · rename_i sameYear
      exact ⟨Nat.le_add_left 1 _, sameYear, le_rfl, one_le_monthLength _ _⟩
    · exact ⟨le_rfl, Nat.le_add_left 1 11, le_rfl, one_le_monthLength _ _⟩

/-- **The next date is one day later.** -/
theorem daysSinceEpoch_next (valid : d.Valid) :
    d.next.daysSinceEpoch = d.daysSinceEpoch + 1 := by
  have last := valid.day_le
  have final := valid.month_le
  unfold next
  split
  · simp only [daysSinceEpoch]
    omega
  · have month := daysToMonth_succ (isLeap d.year) valid.one_le_month
    split
    · simp only [daysSinceEpoch]
      omega
    · have december : d.month = 12 := by omega
      have year : daysToMonth (isLeap d.year) (d.month + 1) = yearLength (isLeap d.year) := by
        rw [december]
        rfl
      have start : daysToMonth (isLeap (d.year + 1)) 1 = 0 := rfl
      simp only [daysSinceEpoch, daysToYear_succ, start]
      omega

/-- Every date follows some date. -/
theorem exists_next_eq (valid : d.Valid) : ∃ e : Date, e.Valid ∧ e.next = d := by
  obtain ⟨year, month, day⟩ := d
  obtain ⟨month_pos, month_le, day_pos, day_le⟩ := valid
  dsimp only at month_pos month_le day_pos day_le
  by_cases later : 1 < day
  · have inside : day - 1 < monthLength (isLeap year) month := by omega
    refine ⟨⟨year, month, day - 1⟩,
      ⟨month_pos, month_le, Nat.le_sub_one_of_lt later, inside.le⟩, ?_⟩
    rw [next, if_pos inside, Nat.sub_add_cancel day_pos]
  · obtain rfl : day = 1 := by omega
    by_cases second : 1 < month
    · have inside : month - 1 < 12 := by omega
      refine ⟨⟨year, month - 1, monthLength (isLeap year) (month - 1)⟩,
        ⟨Nat.le_sub_one_of_lt second, inside.le, one_le_monthLength _ _, le_rfl⟩, ?_⟩
      rw [next, if_neg (lt_irrefl _), if_pos inside, Nat.sub_add_cancel month_pos]
    · obtain rfl : month = 1 := by omega
      refine ⟨⟨year - 1, 12, 31⟩,
        ⟨Nat.le_add_left 1 11, le_rfl, Nat.le_add_left 1 30, le_rfl⟩, ?_⟩
      have ended : ¬ 31 < monthLength (isLeap (year - 1)) 12 := lt_irrefl 31
      rw [next, if_neg ended, if_neg (lt_irrefl 12), sub_add_cancel]

/-- **Every number of days, before and after 1970, leads to a date.** -/
theorem exists_valid_days (n : Int) : ∃ d : Date, d.Valid ∧ d.daysSinceEpoch = n := by
  induction n using Int.inductionOn' (b := 0) with
  | zero => exact ⟨⟨1970, 1, 1⟩, ⟨by decide, by decide, by decide, by decide⟩, by decide⟩
  | succ n _ ih =>
      obtain ⟨d, valid, rfl⟩ := ih
      exact ⟨d.next, valid_next valid, daysSinceEpoch_next valid⟩
  | pred n _ ih =>
      obtain ⟨d, valid, rfl⟩ := ih
      obtain ⟨e, before, rfl⟩ := exists_next_eq valid
      exact ⟨e, before, by rw [daysSinceEpoch_next before, add_sub_cancel_right]⟩

theorem ofDayNumber_daysSinceEpoch (valid : d.Valid) : ofDayNumber d.daysSinceEpoch = d := by
  rw [← dayNumber_eq_daysSinceEpoch valid, ofDayNumber_dayNumber valid]

theorem valid_ofDayNumber (n : Int) : (ofDayNumber n).Valid := by
  obtain ⟨d, valid, rfl⟩ := exists_valid_days n
  rwa [ofDayNumber_daysSinceEpoch valid]

theorem daysSinceEpoch_ofDayNumber (n : Int) : (ofDayNumber n).daysSinceEpoch = n := by
  obtain ⟨d, valid, rfl⟩ := exists_valid_days n
  rw [ofDayNumber_daysSinceEpoch valid]

/-! ## Years in order -/

/-- A date is in a year or later exactly if it is no earlier than the start of the year. -/
theorem le_year_iff (valid : d.Valid) (year : Int) :
    year ≤ d.year ↔ daysToYear year ≤ d.daysSinceEpoch := by
  have positive := valid.one_le_day
  have last := valid.day_le
  have inYear := daysToMonth_add_le (isLeap d.year) d.month valid.month_mem
  constructor
  · intro le
    have := daysToYear_le le
    unfold daysSinceEpoch
    omega
  · intro le
    by_contra later
    have := daysToYear_le (Int.add_one_le_of_lt (lt_of_not_ge later))
    rw [daysToYear_succ] at this
    unfold daysSinceEpoch at le
    omega

end Date

end ConsoleView.Time
