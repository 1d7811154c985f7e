/-
# ConsoleView.Proofs.Time.Display -- the text of a moment names the instant

A text is read as a date and a time in UTC by a reader of its own: digits of fixed
width with marks between them, a sign before years of more than four digits, a
fraction only if there is one.  What it reads must be a date of the calendar.  The
text of a moment is read as the moment (`ofText?_text`), so the milliseconds that it
names are those of the timestamp, and two timestamps never share a text
(`timeDisplay_names_instant`).
-/
import ConsoleView.Proofs.Json.NumberText
import ConsoleView.Proofs.Preview.Rerender
import ConsoleView.Proofs.Time.Moment

namespace ConsoleView

set_option autoImplicit false

namespace Time

/-! ## Reading a date and a time -/

/-- What reads the beginning of a text and leaves the rest. -/
abbrev Scan := StateT (List Char) Option

namespace Scan

def mark (c : Char) : Scan Unit
  | [] => none
  | d :: rest => if d = c then some ((), rest) else none

/-- A number of exactly so many digits. -/
def digits (width : Nat) : Scan Nat := fun cs =>
  let ds := cs.take width
  if ds.length = width ∧ ds.all Char.isDigit then some (digitsValue ds, cs.drop width) else none

/-- The digits of a year after its sign: all that there are, but no fewer than four. -/
def signedYear : Scan Nat := fun cs => digits (max 4 (cs.takeWhile Char.isDigit).length) cs

/-- A year has four digits, or a sign and at least four. -/
def year : Scan Int
  | '-' :: rest => (signedYear rest).map fun read => (-(read.1 : Int), read.2)
  | '+' :: rest => (signedYear rest).map fun read => ((read.1 : Int), read.2)
  | cs => (digits 4 cs).map fun read => ((read.1 : Int), read.2)

/-- The milliseconds of a second, zero if there are none. -/
def fraction : Scan Nat
  | '.' :: rest => digits 3 rest
  | cs => some (0, cs)

/-- A date and a time of day, up to what is said of the distance from UTC. -/
def moment : Scan Moment := do
  let year ← year
  mark '-'
  let month ← digits 2
  mark '-'
  let day ← digits 2
  mark 'T'
  let hour ← digits 2
  mark ':'
  let minute ← digits 2
  mark ':'
  let second ← digits 2
  let milli ← fraction
  return { date := { year, month, day }, hour, minute, second, milli }

end Scan

namespace Moment

/-- The moment that a text in UTC stands for, if it is a date of the calendar and a time of day. -/
def ofText? (text : String) : Option Moment :=
  match Scan.moment text.toList with
  | some (m, offset) => if offset = "+00:00".toList ∧ m.Valid then some m else none
  | none => none

def instant? (text : String) : Option Int := (ofText? text).map sinceEpoch

example : instant? "1900-02-29T00:00:00+00:00" = none ∧
    instant? "1900-03-01T00:00:00.5+00:00" = none ∧
    instant? "1969-12-31T23:59:59.999+00:00" = some (-1) := by decide +kernel

end Moment

/-! ## Reading what was written -/

theorem allDigits_padded (width n : Nat) : AllDigits (padded width n) :=
  (allDigits_zeros _).append (allDigits_decimalDigits n)

theorem digitsValue_padded (width n : Nat) : digitsValue (padded width n) = n := by
  rw [digitsValue, padded, Nat.ofDigitChars_append, Nat.ofDigitChars_replicate_zero, Nat.mul_zero]
  exact digitsValue_decimalDigits n

theorem length_padded (width n : Nat) :
    (padded width n).length = max width (decimalDigits n).length := by
  rw [padded, List.length_append, List.length_replicate]
  omega

/-- A number below a power of ten is padded to the digits of that power's zeros. -/
theorem length_padded_of_lt {width n : Nat} (positive : 0 < width) (small : n < 10 ^ width) :
    (padded width n).length = width := by
  have few : (decimalDigits n).length ≤ width :=
    (Nat.length_toDigits_le_iff (by decide) positive).2 small
  rw [length_padded, max_eq_left few]

namespace Scan

variable {rest : List Char}

/-- What a reader has read is passed on together with the rest. -/
theorem bind_eq {α β : Type} {p : Scan α} {f : α → Scan β} {cs : List Char} {a : α}
    (read : p cs = some (a, rest)) : (p >>= f) cs = f a rest := by
  show (p cs >>= fun read => f read.1 read.2) = f a rest
  rw [read]
  rfl

theorem mark_cons (c : Char) (rest : List Char) : mark c (c :: rest) = some ((), rest) := if_pos rfl

theorem digits_append {ds : List Char} (only : AllDigits ds) (rest : List Char) :
    digits ds.length (ds ++ rest) = some (digitsValue ds, rest) := by
  unfold digits
  dsimp only
  rw [List.take_left, List.drop_left, if_pos ⟨rfl, List.all_eq_true.2 only⟩]

theorem digits_padded {width n : Nat} (positive : 0 < width) (small : n < 10 ^ width)
    (rest : List Char) : digits width (padded width n ++ rest) = some (n, rest) := by
  have read := digits_append (allDigits_padded width n) rest
  rwa [length_padded_of_lt positive small, digitsValue_padded] at read

theorem takeWhile_digits {ds : List Char} (only : AllDigits ds) (ends : EndsDigits rest) :
    (ds ++ rest).takeWhile Char.isDigit = ds := by
  have stop : rest.takeWhile Char.isDigit = [] := by
    cases rest with
    | nil => rfl
    | cons c rest => exact List.takeWhile_cons_of_neg (by rw [ends c rfl]; decide)
  rw [List.takeWhile_append_of_pos only, stop, List.append_nil]

theorem signedYear_padded (n : Nat) (ends : EndsDigits rest) :
    signedYear (padded 4 n ++ rest) = some (n, rest) := by
  have only := allDigits_padded 4 n
  have wide : max 4 (padded 4 n).length = (padded 4 n).length :=
    max_eq_right (by rw [length_padded]; exact le_max_left _ _)
  rw [signedYear, takeWhile_digits only ends, wide, digits_append only, digitsValue_padded]

/-- A year that begins with a digit has no sign. -/
theorem year_of_digit {c : Char} (digit : c.isDigit = true) :
    year (c :: rest) = (digits 4 (c :: rest)).map fun read => ((read.1 : Int), read.2) := by
  unfold year
  split
  · rename_i same
    cases same
    cases digit
  · rename_i same
    cases same
    cases digit
  · rfl

theorem year_minus (cs : List Char) :
    year ('-' :: cs) = (signedYear cs).map fun read => (-(read.1 : Int), read.2) := rfl

theorem year_plus (cs : List Char) :
    year ('+' :: cs) = (signedYear cs).map fun read => ((read.1 : Int), read.2) := rfl

theorem year_yearChars (y : Int) (ends : EndsDigits rest) :
    year (yearChars y ++ rest) = some (y, rest) := by
  unfold yearChars
  split
  · rename_i common
    have small : y.toNat < 10 ^ 4 := by omega
    have read := digits_padded (by decide) small rest
    obtain ⟨c, ds, first⟩ : ∃ c ds, padded 4 y.toNat = c :: ds := by
      refine List.exists_cons_of_length_pos ?_
      rw [length_padded_of_lt (by decide) small]
      decide
    have digit := allDigits_padded 4 y.toNat c (by rw [first]; exact List.mem_cons_self)
    rw [first, List.cons_append] at read ⊢
    rw [year_of_digit digit, read, Option.map_some, Int.toNat_of_nonneg common.1]
  · have read := signedYear_padded y.natAbs ends
    split
    · have value : -(y.natAbs : Int) = y := by omega
      rw [List.cons_append, year_minus, read, Option.map_some, value]
    · have value : (y.natAbs : Int) = y := by omega
      rw [List.cons_append, year_plus, read, Option.map_some, value]

theorem fraction_text {milli : Nat} (small : milli < 1000) :
    fraction ((if milli = 0 then [] else '.' :: padded 3 milli) ++ "+00:00".toList) =
      some (milli, "+00:00".toList) := by
  split
  · rename_i whole
    rw [whole]
    rfl
  · exact digits_padded (by decide) small _

/-- **The text of a moment is read as the moment.** -/
theorem moment_text {m : Moment} (valid : m.Valid) :
    moment m.text.toList = some (m, "+00:00".toList) := by
  have month : m.date.month < 10 ^ 2 := valid.date.month_le.trans_lt (by decide)
  have day : m.date.day < 10 ^ 2 :=
    (valid.date.day_le.trans (monthLength_bounds _ _).2).trans_lt (by decide)
  have hour : m.hour < 10 ^ 2 := valid.hour.trans (by decide)
  have minute : m.minute < 10 ^ 2 := valid.minute.trans (by decide)
  have second : m.second < 10 ^ 2 := valid.second.trans (by decide)
  rw [Moment.text, String.toList_ofList]
  simp only [List.append_assoc, List.cons_append]
  unfold moment
  refine (bind_eq (year_yearChars _ (.cons rfl))).trans ?_
  refine (bind_eq (mark_cons '-' _)).trans ?_
  refine (bind_eq (digits_padded (by decide) month _)).trans ?_
  refine (bind_eq (mark_cons '-' _)).trans ?_
  refine (bind_eq (digits_padded (by decide) day _)).trans ?_
  refine (bind_eq (mark_cons 'T' _)).trans ?_
  refine (bind_eq (digits_padded (by decide) hour _)).trans ?_
  refine (bind_eq (mark_cons ':' _)).trans ?_
  refine (bind_eq (digits_padded (by decide) minute _)).trans ?_
  refine (bind_eq (mark_cons ':' _)).trans ?_
  refine (bind_eq (digits_padded (by decide) second _)).trans ?_
  exact bind_eq (fraction_text valid.milli)

end Scan

theorem Moment.ofText?_text {m : Moment} (valid : m.Valid) : ofText? m.text = some m := by
  rw [ofText?, Scan.moment_text valid]
  exact if_pos ⟨rfl, valid⟩

theorem Moment.instant?_text {m : Moment} (valid : m.Valid) :
    instant? m.text = some m.sinceEpoch := by
  rw [instant?, ofText?_text valid, Option.map_some]

end Time

open Time

/-! ## The time display -/

theorem get?_utc_timeDisplay (t : Timestamp) :
    (timeDisplay t).scope.get? "utc" = t.utc?.map .string := by
  cases text : t.utc? with
  | none =>
      simp only [timeDisplay, text]
      rw [Scope.bind, Scope.get?_insert, if_neg (by decide)]
      rfl
  | some utc =>
      simp only [timeDisplay, text]
      rw [Scope.bind, Scope.get?_insert, if_pos rfl]
      rfl

/-- A text is shown exactly for a timestamp with a moment, and it is the text of the moment. -/
theorem get?_utc_eq_some_iff {t : Timestamp} {shown : Json} :
    (timeDisplay t).scope.get? "utc" = some shown ↔
      ∃ m, t.moment? = some m ∧ shown = .string m.text := by
  rw [get?_utc_timeDisplay, Timestamp.utc?, Option.map_map, Option.map_eq_some_iff]
  simp only [Function.comp_apply, eq_comm]

/-- **The time display names the instant.**  It binds the milliseconds, and a text exactly if the
timestamp has a moment, which it has between fixed bounds.  The timestamp of the moment is the
timestamp again.  The text is read, by the rules of the calendar, as the moment and as that number of
milliseconds since the start of 1970; so no other timestamp has the same text. -/
theorem timeDisplay_names_instant (t : Timestamp) :
    (timeDisplay t).scope.get? "timestamp" = some (.int t.millis.toInt) ∧
      (((timeDisplay t).scope.get? "utc").isSome ↔ t.moment?.isSome) ∧
      (t.moment?.isSome ↔
        -8334601228800000 ≤ t.millis.toInt ∧ t.millis.toInt ≤ 8210266876799999) ∧
      (∀ m, t.moment? = some m → Timestamp.ofMoment m = t ∧
        ∃ text, (timeDisplay t).scope.get? "utc" = some (.string text) ∧
          Moment.ofText? text = some m ∧ Moment.instant? text = some t.millis.toInt) ∧
      ∀ u shown, (timeDisplay t).scope.get? "utc" = some shown →
        (timeDisplay u).scope.get? "utc" = some shown → u = t := by
  refine ⟨get?_timeDisplay t, ?_, Timestamp.isSome_moment?_iff, fun m found => ?_, ?_⟩
  · rw [get?_utc_timeDisplay, Timestamp.utc?, Option.isSome_map, Option.isSome_map]
  · obtain ⟨valid, counted, -⟩ := Timestamp.moment?_eq_some_iff.1 found
    refine ⟨Timestamp.ofMoment_moment? found, m.text, get?_utc_eq_some_iff.2 ⟨m, found, rfl⟩,
      Moment.ofText?_text valid, ?_⟩
    rw [Moment.instant?_text valid, counted]
  · intro u shown shownT shownU
    obtain ⟨m, foundT, rfl⟩ := get?_utc_eq_some_iff.1 shownT
    obtain ⟨n, foundU, same⟩ := get?_utc_eq_some_iff.1 shownU
    have validT := (Timestamp.moment?_eq_some_iff.1 foundT).1
    have validU := (Timestamp.moment?_eq_some_iff.1 foundU).1
    have read := Moment.ofText?_text validT
    rw [Json.string.inj same, Moment.ofText?_text validU] at read
    calc u = Timestamp.ofMoment n := (Timestamp.ofMoment_moment? foundU).symm
      _ = Timestamp.ofMoment m := congrArg Timestamp.ofMoment (Option.some.inj read)
      _ = t := Timestamp.ofMoment_moment? foundT

/-- The first moment of all, without a fraction and in a year before zero, and the last millisecond
of a leap day in the year zero; a millisecond before the first there is no text. -/
theorem instant_of_first_moment :
    let first : Timestamp := ⟨-8334601228800000⟩
    let leap : Timestamp := ⟨-62162035200001⟩
    let firstText := "-262143-01-01T00:00:00+00:00"
    (timeDisplay first).scope.get? "utc" = some (.string firstText) ∧
      Moment.instant? firstText = some (-8334601228800000) ∧
      Timestamp.ofMoment ⟨⟨0, 2, 29⟩, 23, 59, 59, 999⟩ = leap ∧
      (timeDisplay leap).scope.get? "utc" ≠ some (.string firstText) ∧
      ((timeDisplay ⟨-8334601228800001⟩).scope.get? "utc").isSome = false := by
  intro first leap firstText
  obtain ⟨-, -, -, named, alone⟩ := timeDisplay_names_instant first
  obtain ⟨-, -, -, leapNamed, -⟩ := timeDisplay_names_instant leap
  obtain ⟨-, outside, bounds, -⟩ := timeDisplay_names_instant ⟨-8334601228800001⟩
  have found : first.moment? = some ⟨⟨-262143, 1, 1⟩, 0, 0, 0, 0⟩ := by decide +kernel
  have text : (timeDisplay first).scope.get? "utc" = some (.string firstText) :=
    get?_utc_eq_some_iff.2 ⟨_, found, congrArg Json.string (by decide +kernel)⟩
  obtain ⟨-, other, shownFirst, -, instant⟩ := named _ found
  obtain rfl : firstText = other := Json.string.inj (Option.some.inj (text.symm.trans shownFirst))
  refine ⟨text, instant.trans (by decide), (leapNamed _ (by decide +kernel)).1, fun same => ?_, ?_⟩
  · exact absurd (alone leap _ text same) (by decide)
  · rw [Bool.eq_false_iff]
    intro isSome
    exact absurd (bounds.1 (outside.1 isSome)).1 (by decide)

end ConsoleView
