/-
# ConsoleView.Time.Timestamp -- milliseconds since the epoch, and their UTC text

A timestamp is any number of milliseconds that sixty-four bits hold.  Those
whose year has at most six digits, within fixed bounds, also have a UTC date
and time, and a text such as `1970-01-01T00:00:00.001+00:00`.
-/
import ConsoleView.Json.Codec
import ConsoleView.Time.Calendar

namespace ConsoleView

set_option autoImplicit false

/-- Milliseconds since 1970-01-01T00:00:00 UTC. -/
structure Timestamp where
  millis : Int64 := 0
deriving DecidableEq, Repr, Inhabited

def Timestamp.codec : Json.Codec Timestamp where
  write t := Json.Codec.int64.write t.millis
  read j := return ⟨← Json.Codec.int64.read j⟩

namespace Time

/-- A date and a time of day in UTC. -/
structure Moment where
  date : Date
  hour : Nat
  minute : Nat
  second : Nat
  milli : Nat
deriving DecidableEq, Repr

def millisPerDay : Int := 86400000

/-- The years that have dates. -/
def firstYear : Int := -262143

def lastYear : Int := 262142

/-- The moment so many milliseconds after the epoch. -/
def Moment.ofMillis (ms : Int) : Moment :=
  let ofDay := (ms % millisPerDay).toNat
  { date := Date.ofDayNumber (ms / millisPerDay)
    hour := ofDay / 3600000
    minute := ofDay / 60000 % 60
    second := ofDay / 1000 % 60
    milli := ofDay % 1000 }

def Moment.millis (m : Moment) : Int :=
  m.date.dayNumber * millisPerDay +
    (((m.hour * 60 + m.minute) * 60 + m.second) * 1000 + m.milli : Nat)

/-- A number with leading zeros up to `width` digits. -/
def padded (width n : Nat) : List Char :=
  let ds := decimalDigits n
  List.replicate (width - ds.length) '0' ++ ds

/-- The year with four digits, and a sign outside the years 0 to 9999. -/
def yearChars (year : Int) : List Char :=
  if 0 ≤ year ∧ year ≤ 9999 then padded 4 year.toNat
  else (if year < 0 then '-' else '+') :: padded 4 year.natAbs

/-- The moment as text; milliseconds are shown only if there are any. -/
def Moment.text (m : Moment) : String :=
  String.ofList <|
    yearChars m.date.year ++ '-' :: padded 2 m.date.month ++ '-' :: padded 2 m.date.day ++
      'T' :: padded 2 m.hour ++ ':' :: padded 2 m.minute ++ ':' :: padded 2 m.second ++
      (if m.milli = 0 then [] else '.' :: padded 3 m.milli) ++ "+00:00".toList

end Time

/-- The date and time of a timestamp, if its year has dates. -/
def Timestamp.moment? (t : Timestamp) : Option Time.Moment :=
  let m := Time.Moment.ofMillis t.millis.toInt
  if Time.firstYear ≤ m.date.year ∧ m.date.year ≤ Time.lastYear then some m else none

def Timestamp.ofMoment (m : Time.Moment) : Timestamp := ⟨Int64.ofInt m.millis⟩

def Timestamp.utc? (t : Timestamp) : Option String := t.moment?.map Time.Moment.text

end ConsoleView
