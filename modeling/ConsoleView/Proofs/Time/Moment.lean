/-
# ConsoleView.Proofs.Time.Moment -- the moment of a timestamp

A moment is counted in milliseconds since 1970-01-01 by the days of its date and the
hours, minutes and seconds of its day (`Moment.sinceEpoch`).  The moment of a
timestamp is the only one with that count, and there is one exactly if the year is
in bounds (`moment?_eq_some_iff`), which are bounds of the timestamp
(`isSome_moment?_iff`).
-/
import ConsoleView.Proofs.Time.Calendar
import ConsoleView.Time.Timestamp

namespace ConsoleView

set_option autoImplicit false

namespace Time.Moment

/-- A date of the calendar and a time of day. -/
structure Valid (m : Moment) : Prop where
  date : m.date.Valid
  hour : m.hour < 24
  minute : m.minute < 60
  second : m.second < 60
  milli : m.milli < 1000

instance (m : Moment) : Decidable m.Valid :=
  decidable_of_iff (m.date.Valid ∧ m.hour < 24 ∧ m.minute < 60 ∧ m.second < 60 ∧ m.milli < 1000)
    ⟨fun ⟨a, b, c, d, e⟩ => ⟨a, b, c, d, e⟩, fun ⟨a, b, c, d, e⟩ => ⟨a, b, c, d, e⟩⟩

def ofDay (m : Moment) : Nat :=
  m.hour * 3600000 + m.minute * 60000 + m.second * 1000 + m.milli

/-- The milliseconds from 1970-01-01T00:00:00 to a moment. -/
def sinceEpoch (m : Moment) : Int := m.date.daysSinceEpoch * 86400000 + m.ofDay

variable {m : Moment}

theorem Valid.ofDay_lt (valid : m.Valid) : m.ofDay < 86400000 := by
  obtain ⟨-, hour, minute, second, milli⟩ := valid
  unfold ofDay
  omega

/-- The count of a moment that goes by years from March is the same. -/
theorem millis_eq_sinceEpoch (valid : m.Valid) : m.millis = m.sinceEpoch := by
  have time : ((m.hour * 60 + m.minute) * 60 + m.second) * 1000 + m.milli = m.ofDay := by
    unfold ofDay
    ring
  rw [millis, time, Date.dayNumber_eq_daysSinceEpoch valid.date, sinceEpoch, millisPerDay]

theorem ofDay_ofMillis (ms : Int) : ((ofMillis ms).ofDay : Int) = ms % 86400000 := by
  simp only [ofDay, ofMillis, millisPerDay]
  omega

theorem valid_ofMillis (ms : Int) : (ofMillis ms).Valid where
  date := Date.valid_ofDayNumber _
  hour := by
    simp only [ofMillis, millisPerDay]
    omega
  minute := Nat.mod_lt _ (by decide)
  second := Nat.mod_lt _ (by decide)
  milli := Nat.mod_lt _ (by decide)

theorem sinceEpoch_ofMillis (ms : Int) : (ofMillis ms).sinceEpoch = ms := by
  have days : (ofMillis ms).date.daysSinceEpoch = ms / 86400000 :=
    Date.daysSinceEpoch_ofDayNumber _
  rw [sinceEpoch, days, ofDay_ofMillis, Int.ediv_mul_add_emod]

/-- **A moment is found back from its milliseconds.** -/
theorem ofMillis_sinceEpoch (valid : m.Valid) : ofMillis m.sinceEpoch = m := by
  have within := valid.ofDay_lt
  have days : m.sinceEpoch / millisPerDay = m.date.daysSinceEpoch := by
    unfold sinceEpoch millisPerDay
    omega
  have time : (m.sinceEpoch % millisPerDay).toNat = m.ofDay := by
    unfold sinceEpoch millisPerDay
    omega
  obtain ⟨date, hour, minute, second, milli⟩ := valid
  have parts : m.ofDay / 3600000 = m.hour ∧ m.ofDay / 60000 % 60 = m.minute ∧
      m.ofDay / 1000 % 60 = m.second ∧ m.ofDay % 1000 = m.milli := by
    unfold ofDay
    omega
  rw [ofMillis, days, time, Date.ofDayNumber_daysSinceEpoch date, parts.1, parts.2.1,
    parts.2.2.1, parts.2.2.2]

/-- A moment is in the years that have dates exactly if its milliseconds are in bounds. -/
theorem inYears_iff (valid : m.Valid) :
    firstYear ≤ m.date.year ∧ m.date.year ≤ lastYear ↔
      -8334601228800000 ≤ m.sinceEpoch ∧ m.sinceEpoch ≤ 8210266876799999 := by
  have within := valid.ofDay_lt
  have first : daysToYear (-262143) = -96465292 := by rw [daysToYear_eq]; decide
  have last : daysToYear 262143 = 95026237 := by rw [daysToYear_eq]; decide
  have start := Date.le_year_iff valid.date (-262143)
  have stop := Date.le_year_iff valid.date 262143
  rw [first] at start
  rw [last] at stop
  unfold firstYear lastYear sinceEpoch
  omega

end Time.Moment

namespace Timestamp

open Time

variable {t : Timestamp} {m : Moment}

/-- **The moment of a timestamp is the one so many milliseconds after the epoch, if its year has
dates.** -/
theorem moment?_eq_some_iff :
    t.moment? = some m ↔
      m.Valid ∧ m.sinceEpoch = t.millis.toInt ∧ firstYear ≤ m.date.year ∧
        m.date.year ≤ lastYear := by
  unfold moment?
  constructor
  · intro found
    obtain ⟨inYears, made⟩ := Option.ite_none_right_eq_some.1 found
    obtain rfl := Option.some.inj made
    exact ⟨Moment.valid_ofMillis _, Moment.sinceEpoch_ofMillis _, inYears⟩
  · rintro ⟨valid, counted, inYears⟩
    rw [← counted, Moment.ofMillis_sinceEpoch valid, if_pos inYears]

theorem isSome_moment?_iff :
    t.moment?.isSome ↔
      -8334601228800000 ≤ t.millis.toInt ∧ t.millis.toInt ≤ 8210266876799999 := by
  have bounds := Moment.inYears_iff (Moment.valid_ofMillis t.millis.toInt)
  rw [Moment.sinceEpoch_ofMillis] at bounds
  rw [← bounds, moment?]
  split
  · rename_i inYears
    exact iff_of_true rfl inYears
  · rename_i outside
    exact iff_of_false Bool.false_ne_true outside

/-- **The timestamp of its moment is the timestamp.** -/
theorem ofMoment_moment? (found : t.moment? = some m) : ofMoment m = t := by
  obtain ⟨valid, counted, -⟩ := moment?_eq_some_iff.1 found
  rw [ofMoment, Moment.millis_eq_sinceEpoch valid, counted, Int64.ofInt_toInt]

end Timestamp

end ConsoleView
