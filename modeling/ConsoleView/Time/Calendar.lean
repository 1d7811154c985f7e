/-
# ConsoleView.Time.Calendar -- days as dates of the Gregorian calendar

Days are counted from 1970-01-01, in both directions.  The calendar has no
first day.  Years are counted here from March, so that the leap day is the last
of its year and the months before it always have the same lengths; four
hundred years are one `era` and have the same number of days.
-/

namespace ConsoleView.Time

set_option autoImplicit false

structure Date where
  year : Int
  month : Nat
  day : Nat
deriving DecidableEq, Repr

/-- The days of four hundred years. -/
def daysPerEra : Int := 146097

/-- The days from 0000-03-01 to 1970-01-01. -/
def epochShift : Int := 719468

/-- The days before the first day of the `m`-th month, March being month zero. -/
def daysBeforeMonth (m : Int) : Int := (153 * m + 2) / 5

/-- The days before the `y`-th year of an era. -/
def daysBeforeYear (y : Int) : Int := 365 * y + y / 4 - y / 100

def Date.dayNumber (d : Date) : Int :=
  let fromMarch : Int := if d.month ≤ 2 then (d.month : Int) + 9 else (d.month : Int) - 3
  let year := if d.month ≤ 2 then d.year - 1 else d.year
  year / 400 * daysPerEra + daysBeforeYear (year % 400) + daysBeforeMonth fromMarch +
    ((d.day : Int) - 1) - epochShift

def Date.ofDayNumber (n : Int) : Date :=
  let shifted := n + epochShift
  let dayOfEra := shifted % daysPerEra
  let yearOfEra := (dayOfEra - dayOfEra / 1460 + dayOfEra / 36524 - dayOfEra / 146096) / 365
  let dayOfYear := dayOfEra - daysBeforeYear yearOfEra
  let fromMarch := (5 * dayOfYear + 2) / 153
  let month := if fromMarch < 10 then fromMarch + 3 else fromMarch - 9
  let year := shifted / daysPerEra * 400 + yearOfEra
  { year := if month ≤ 2 then year + 1 else year
    month := month.toNat
    day := (dayOfYear - daysBeforeMonth fromMarch).toNat + 1 }

example : Date.ofDayNumber 0 = ⟨1970, 1, 1⟩ ∧ Date.dayNumber ⟨1970, 1, 1⟩ = 0 := by decide
example : Date.ofDayNumber 11016 = ⟨2000, 2, 29⟩ ∧ Date.dayNumber ⟨2000, 2, 29⟩ = 11016 := by
  decide
example : Date.ofDayNumber (-719469) = ⟨0, 2, 29⟩ := by decide

end ConsoleView.Time
