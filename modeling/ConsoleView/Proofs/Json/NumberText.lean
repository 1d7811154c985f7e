/-
# ConsoleView.Proofs.Json.NumberText -- the text of a number is read

The reader takes the text of a number apart: the digits before the point
(`number_whole`), those behind it (`fractionPart_digits`) and the exponent
(`exponentPart_digits`).  So an integer of sixty-four bits is read as itself
(`number_decimalDigits`), and the text of a double as a double
(`readsReal_writeDecimal`).
-/
import ConsoleView.Json.Printer
import ConsoleView.Json.NumberReader
import ConsoleView.Proofs.Decimal.Shortest

namespace ConsoleView

set_option autoImplicit false

/-! ## Digits -/

def AllDigits (ds : List Char) : Prop := ∀ c ∈ ds, c.isDigit = true

/-- What follows does not begin with a digit. -/
def EndsDigits (rest : List Char) : Prop := ∀ c ∈ rest.head?, c.isDigit = false

theorem EndsDigits.cons {c : Char} {rest : List Char} (stop : c.isDigit = false) :
    EndsDigits (c :: rest) := by
  intro d member
  obtain rfl : c = d := Option.some.inj member
  exact stop

theorem allDigits_decimalDigits (n : Nat) : AllDigits (decimalDigits n) :=
  fun _ member => Nat.isDigit_of_mem_toDigits (by decide) (by decide) member

theorem AllDigits.append {ds es : List Char} (first : AllDigits ds) (second : AllDigits es) :
    AllDigits (ds ++ es) :=
  fun c member => (List.mem_append.1 member).elim (first c) (second c)

theorem allDigits_zeros (n : Nat) : AllDigits (NumberLayout.zeros n) := by
  intro c member
  rw [List.eq_of_mem_replicate member]
  rfl

/-- The digits of a positive number do not begin with a zero. -/
theorem head_decimalDigits {n : Nat} (positive : 0 < n) (rest : List Char) :
    decimalDigits n ≠ '0' :: rest := by
  induction n using Nat.strong_induction_on generalizing rest with
  | _ n ih =>
    unfold decimalDigits at ih ⊢
    by_cases small : n < 10
    · rw [Nat.toDigits_of_lt_base small]
      intro zero
      obtain ⟨first, -⟩ := List.cons.inj zero
      exact positive.ne' (Nat.digitChar_eq_zero.1 first)
    · rw [Nat.toDigits_of_base_le (by decide) (by omega)]
      intro zero
      obtain ⟨nothing, -⟩ | ⟨later, front, -⟩ := List.append_eq_cons_iff.1 zero
      · exact Nat.toDigits_ne_nil nothing
      · exact ih (n / 10) (by omega) (by omega) later front

abbrev digitsValue (ds : List Char) : Nat := Nat.ofDigitChars 10 ds 0

theorem digitsValue_decimalDigits (n : Nat) : digitsValue (decimalDigits n) = n :=
  Nat.ofDigitChars_ten_toDigits

theorem le_ofDigitChars (ds : List Char) (n : Nat) : n ≤ Nat.ofDigitChars 10 ds n := by
  rw [Nat.ofDigitChars_eq_ofDigitChars_zero]
  have := Nat.le_mul_of_pos_left n (Nat.pow_pos (n := ds.length) (by decide : 0 < 10))
  omega

namespace Json

/-! ## Parts of a number -/

theorem digit?_of_isDigit {c : Char} (digit : c.isDigit = true) :
    digit? c = some (c.toNat - '0'.toNat) := if_pos digit

theorem takeDigits_digits {ds rest : List Char} {significand : Nat} (count : Nat)
    (digits : AllDigits ds) (small : Nat.ofDigitChars 10 ds significand < significandBound)
    (ends : EndsDigits rest) :
    takeDigits significand count (ds ++ rest) =
      (Nat.ofDigitChars 10 ds significand, count + ds.length, rest) := by
  induction ds generalizing significand count with
  | nil =>
      cases rest with
      | nil => rfl
      | cons c rest =>
          have stop : digit? c = none := if_neg (by simp [ends c rfl])
          simp only [List.nil_append, takeDigits, stop]
          rfl
  | cons c ds ih =>
      obtain ⟨first, later⟩ := List.forall_mem_cons.1 digits
      rw [Nat.ofDigitChars_cons, Nat.mul_comm] at small ⊢
      have fits := (le_ofDigitChars ds _).trans_lt small
      simp only [List.cons_append, takeDigits, digit?_of_isDigit first]
      rw [if_pos fits, ih _ later small]
      simp only [List.length_cons, Nat.add_assoc, Nat.add_comm 1]

/-- The digits before the point: no zero stands before another digit. -/
structure IsWhole (ds : List Char) : Prop where
  digits : AllDigits ds
  lead : ds = ['0'] ∨ ∃ c later, ds = c :: later ∧ c ≠ '0'

theorem number_whole {negative : Bool} {ds rest : List Char} (whole : IsWhole ds)
    (small : digitsValue ds < significandBound) (ends : EndsDigits rest) :
    number negative (ds ++ rest) = afterWhole negative (digitsValue ds) rest := by
  obtain rfl | ⟨c, later, rfl, first⟩ := whole.lead
  · cases rest with
    | nil => rfl
    | cons d rest =>
        have stop : d.isDigit = false := ends d rfl
        simp only [List.cons_append, List.nil_append, number, if_true, stop, Bool.false_eq_true,
          if_false]
        rfl
  · have taken := takeDigits_digits 0 whole.digits small ends
    have digit := whole.digits c List.mem_cons_self
    rw [List.cons_append] at taken ⊢
    simp only [number, if_neg first, digit, if_true, taken]
    cases rest with
    | nil => rfl
    | cons d rest =>
        have stop : d.isDigit = false := ends d rfl
        simp only [stop, Bool.false_eq_true, if_false]

theorem fractionPart_digits {p : Numeral} {ds rest : List Char} (digits : AllDigits ds)
    (some : ds ≠ []) (small : Nat.ofDigitChars 10 ds p.significand < significandBound)
    (ends : EndsDigits rest) :
    fractionPart p (ds ++ rest) =
      exponent? ⟨p.negative, Nat.ofDigitChars 10 ds p.significand, p.exponent - ds.length⟩
        rest := by
  have counted : ds.length ≠ 0 := fun none => some (List.length_eq_zero_iff.1 none)
  unfold fractionPart
  rw [takeDigits_digits 0 digits small ends]
  simp only [Nat.zero_add]
  cases rest with
  | nil => simp only [if_neg counted]; rfl
  | cons c rest =>
      have stop : c.isDigit = false := ends c rfl
      simp only [stop, Bool.false_eq_true, if_false, if_neg counted]

theorem exponentDigits_digits {p : Numeral} {up : Bool} {e : Nat} {ds rest : List Char}
    (digits : AllDigits ds) (small : Nat.ofDigitChars 10 ds e ≤ maxExponent)
    (ends : EndsDigits rest) :
    exponentDigits p up e (ds ++ rest) = finish (p.shift up (Nat.ofDigitChars 10 ds e)) rest := by
  induction ds generalizing e with
  | nil =>
      cases rest with
      | nil => rfl
      | cons c rest =>
          have stop : digit? c = none := if_neg (by simp [ends c rfl])
          simp only [List.nil_append, exponentDigits, stop]
          rfl
  | cons c ds ih =>
      obtain ⟨first, later⟩ := List.forall_mem_cons.1 digits
      rw [Nat.ofDigitChars_cons, Nat.mul_comm] at small ⊢
      have fits := (le_ofDigitChars ds _).trans small
      simp only [List.cons_append, exponentDigits, digit?_of_isDigit first]
      rw [if_pos fits, ih later small]

theorem exponentStart_digits {p : Numeral} {up : Bool} {ds rest : List Char}
    (digits : AllDigits ds) (some : ds ≠ []) (small : digitsValue ds ≤ maxExponent)
    (ends : EndsDigits rest) :
    exponentStart p up (ds ++ rest) = finish (p.shift up (digitsValue ds)) rest := by
  cases ds with
  | nil => exact absurd rfl some
  | cons c ds =>
      obtain ⟨first, later⟩ := List.forall_mem_cons.1 digits
      rw [digitsValue, Nat.ofDigitChars_cons, Nat.mul_zero, Nat.zero_add] at small ⊢
      simp only [List.cons_append, exponentStart, digit?_of_isDigit first]
      exact exponentDigits_digits later small ends

/-- The exponent of a number, after its letter. -/
theorem exponentPart_digits {p : Numeral} {e : Int} {rest : List Char}
    (small : e.natAbs ≤ maxExponent) (ends : EndsDigits rest) :
    exponentPart p ((if e < 0 then '-' else '+') :: (decimalDigits e.natAbs ++ rest)) =
      finish { p with exponent := p.exponent + e } rest := by
  have start (up : Bool) : exponentStart p up (decimalDigits e.natAbs ++ rest) =
      finish (p.shift up e.natAbs) rest := by
    have value := digitsValue_decimalDigits e.natAbs
    rw [exponentStart_digits (allDigits_decimalDigits _) Nat.toDigits_ne_nil (by omega) ends, value]
  split
  · refine (start false).trans (congrArg (finish · rest) ?_)
    simp only [Numeral.shift, Bool.false_eq_true, if_false]
    congr 1
    omega
  · refine (start true).trans (congrArg (finish · rest) ?_)
    simp only [Numeral.shift, if_true]
    congr 1
    omega

/-! ## The end of a number -/

/-- What can follow a value: nothing, the next item, or the end of an array or an object. -/
def EndsValue : List Char → Prop
  | [] => True
  | c :: _ => c = ',' ∨ c = ']' ∨ c = '\x7d'

namespace EndsValue

variable {rest : List Char}

theorem nil : EndsValue [] := trivial

theorem bracket (rest : List Char) : EndsValue (']' :: rest) := .inr (.inl rfl)

theorem brace (rest : List Char) : EndsValue ('\x7d' :: rest) := .inr (.inr rfl)

theorem endsDigits (ends : EndsValue rest) : EndsDigits rest := by
  cases rest with
  | nil => exact nofun
  | cons c rest => obtain rfl | rfl | rfl := ends <;> exact .cons rfl

theorem exponent? (ends : EndsValue rest) (p : Numeral) : exponent? p rest = finish p rest := by
  cases rest with
  | nil => rfl
  | cons c rest => obtain rfl | rfl | rfl := ends <;> rfl

theorem afterWhole (ends : EndsValue rest) (negative : Bool) (significand : Nat) :
    afterWhole negative significand rest = .ok (integer negative significand, rest) := by
  cases rest with
  | nil => rfl
  | cons c rest => obtain rfl | rfl | rfl := ends <;> rfl

end EndsValue

theorem finish_inRange {p : Numeral}
    (inRange : (Decimal.scaled p.significand p.exponent).isSome = true) :
    ∃ x, ∀ rest, finish p rest = .ok (.real x, rest) := by
  obtain ⟨x, found⟩ := Option.isSome_iff_exists.1 inRange
  exact ⟨signed p.negative x, fun rest => by simp only [finish, found]⟩

theorem finish_negative {p : Numeral} (negative : p.exponent < 0) :
    ∃ x, ∀ rest, finish p rest = .ok (.real x, rest) := by
  refine finish_inRange ?_
  unfold Decimal.scaled
  rw [if_neg (by omega)]
  rfl

/-- The text is read as a double, whatever follows it. -/
def ReadsReal (negative : Bool) (text : List Char) : Prop :=
  ∃ x, ∀ rest, EndsValue rest → number negative (text ++ rest) = .ok (.real x, rest)

/-! ## Integers -/

theorem isWhole_decimalDigits (n : Nat) : IsWhole (decimalDigits n) := by
  refine ⟨allDigits_decimalDigits n, ?_⟩
  obtain rfl | positive := Nat.eq_zero_or_pos n
  · exact .inl rfl
  · cases digits : decimalDigits n with
    | nil => exact absurd digits Nat.toDigits_ne_nil
    | cons c later =>
        refine .inr ⟨c, later, rfl, ?_⟩
        rintro rfl
        exact head_decimalDigits positive later digits

/-- The digits of a natural number of sixty-four bits are read as that number. -/
theorem number_decimalDigits {negative : Bool} {n : Nat} {rest : List Char}
    (small : n < significandBound) (ends : EndsValue rest) :
    number negative (decimalDigits n ++ rest) = .ok (integer negative n, rest) := by
  have value := digitsValue_decimalDigits n
  rw [number_whole (isWhole_decimalDigits n) (by omega) ends.endsDigits, value, ends.afterWhole]

theorem IsWhole.take {ds : List Char} {k : Nat} (whole : IsWhole ds) (some : 0 < k) :
    IsWhole (ds.take k) := by
  refine ⟨fun c member => whole.digits c (List.mem_of_mem_take member), ?_⟩
  obtain ⟨j, rfl⟩ := Nat.exists_eq_succ_of_ne_zero some.ne'
  obtain rfl | ⟨c, later, rfl, first⟩ := whole.lead
  · exact .inl (by simp)
  · exact .inr ⟨c, later.take j, rfl, first⟩

/-! ## Doubles -/

/-- A whole number with a point and a zero. -/
theorem number_wholePoint {negative : Bool} {n e : Nat} {rest : List Char} (zero : n = 0 → e = 0)
    (small : n * 10 ^ e * 10 < significandBound) (ends : EndsValue rest) :
    number negative (decimalDigits n ++ NumberLayout.zeros e ++ '.' :: '0' :: rest) =
      finish ⟨negative, n * 10 ^ e * 10, -1⟩ rest := by
  have value : digitsValue (decimalDigits n ++ NumberLayout.zeros e) = n * 10 ^ e := by
    rw [digitsValue, Nat.ofDigitChars_append, NumberLayout.zeros, Nat.ofDigitChars_replicate_zero,
      Nat.mul_comm]
    exact congrArg (· * 10 ^ e) (digitsValue_decimalDigits n)
  have whole : IsWhole (decimalDigits n ++ NumberLayout.zeros e) := by
    refine ⟨(allDigits_decimalDigits n).append (allDigits_zeros e), ?_⟩
    obtain only | ⟨c, later, digits, first⟩ := (isWhole_decimalDigits n).lead
    · have none : n = 0 := by rw [← digitsValue_decimalDigits n, only]; rfl
      rw [only, zero none]
      exact .inl rfl
    · exact .inr ⟨c, later ++ NumberLayout.zeros e, by rw [digits]; rfl, first⟩
  rw [number_whole whole (by omega) (.cons rfl), value]
  show fractionPart ⟨negative, n * 10 ^ e, 0⟩ (['0'] ++ rest) = _
  have tenth : Nat.ofDigitChars 10 ['0'] (n * 10 ^ e) = n * 10 ^ e * 10 := Nat.mul_comm ..
  have digit : AllDigits ['0'] := allDigits_zeros 1
  rw [fractionPart_digits digit (by decide) (by rwa [tenth]) ends.endsDigits, tenth, ends.exponent?]
  rfl

/-- Digits around a point. -/
theorem number_point {negative : Bool} {ds es rest : List Char} (whole : IsWhole ds)
    (digits : AllDigits es) (some : es ≠ []) (small : digitsValue (ds ++ es) < significandBound)
    (ends : EndsDigits rest) :
    number negative (ds ++ '.' :: (es ++ rest)) =
      exponent? ⟨negative, digitsValue (ds ++ es), -(es.length : Int)⟩ rest := by
  rw [digitsValue, Nat.ofDigitChars_append] at small ⊢
  rw [number_whole whole ((le_ofDigitChars es _).trans_lt small) (.cons rfl)]
  show fractionPart ⟨negative, digitsValue ds, 0⟩ (es ++ rest) = _
  rw [fractionPart_digits digits some small ends, zero_sub]

theorem readsReal_point {negative : Bool} {ds es : List Char} (whole : IsWhole ds)
    (digits : AllDigits es) (some : es ≠ []) (small : digitsValue (ds ++ es) < significandBound) :
    ReadsReal negative (ds ++ '.' :: es) := by
  have places := List.length_pos_iff.2 some
  obtain ⟨x, finished⟩ := finish_negative
    (p := ⟨negative, digitsValue (ds ++ es), -(es.length : Int)⟩)
    (by show -(es.length : Int) < 0; omega)
  refine ⟨x, fun rest ends => ?_⟩
  rw [List.append_assoc, List.cons_append, number_point whole digits some small ends.endsDigits,
    ends.exponent?, finished]

/-- The text of a decimal without an exponent. -/
theorem readsReal_writePoint {negative : Bool} {d : Decimal} (few : d.digits ≤ 10 ^ 17)
    (zero : d.digits = 0 → d.exponent ≤ 0)
    (lead : d.exponent + ((decimalDigits d.digits).length : Int) ≤ 16) :
    ReadsReal negative (numberLayout.writePoint (decimalDigits d.digits) d.exponent) := by
  obtain ⟨n, e⟩ := d
  dsimp only at few zero lead ⊢
  unfold NumberLayout.writePoint
  have value := digitsValue_decimalDigits n
  have bound : 10 ^ 17 < significandBound := by decide
  split
  · have size : n * 10 ^ e.toNat < 10 ^ 16 := by
      calc n * 10 ^ e.toNat
        _ < 10 ^ (decimalDigits n).length * 10 ^ e.toNat :=
          Nat.mul_lt_mul_of_pos_right (lt_pow_length n) (Nat.pow_pos (by decide))
        _ = 10 ^ ((decimalDigits n).length + e.toNat) := (Nat.pow_add ..).symm
        _ ≤ 10 ^ 16 := Nat.pow_le_pow_right (by decide) (by omega)
    obtain ⟨x, finished⟩ := finish_negative
      (p := ⟨negative, n * 10 ^ e.toNat * 10, -1⟩) (by show (-1 : Int) < 0; decide)
    refine ⟨x, fun rest ends => ?_⟩
    rw [← finished, ← number_wholePoint (by omega) (by omega) ends,
      List.append_assoc _ numberLayout.wholeEnd]
    rfl
  · dsimp only
    split
    · rename_i inside
      obtain ⟨k, point⟩ : ∃ k, (decimalDigits n).length - (-e).toNat = k := ⟨_, rfl⟩
      rw [point]
      have behind : (decimalDigits n).drop k ≠ [] := by
        rw [Ne, List.drop_eq_nil_iff]
        omega
      have digits : AllDigits ((decimalDigits n).drop k) :=
        fun c member => allDigits_decimalDigits n c (List.mem_of_mem_drop member)
      refine readsReal_point ((isWhole_decimalDigits n).take (by omega)) digits behind ?_
      rw [List.take_append_drop, value]
      omega
    · obtain ⟨j, places⟩ : ∃ j, (-e).toNat - (decimalDigits n).length = j := ⟨_, rfl⟩
      have behind : NumberLayout.zeros j ++ decimalDigits n ≠ [] :=
        List.append_ne_nil_of_right_ne_nil _ Nat.toDigits_ne_nil
      have digits := (allDigits_zeros j).append (allDigits_decimalDigits n)
      have leading : digitsValue (['0'] ++ (NumberLayout.zeros j ++ decimalDigits n)) = n := by
        rw [digitsValue, ← List.append_assoc, Nat.ofDigitChars_append, Nat.ofDigitChars_append,
          NumberLayout.zeros, Nat.ofDigitChars_replicate_zero]
        exact value
      rw [places]
      have zero : IsWhole ['0'] := ⟨allDigits_zeros 1, .inl rfl⟩
      exact readsReal_point zero digits behind (leading.trans_lt (by omega))

/-- One digit, the others behind a point, and an exponent. -/
theorem number_scientific {negative : Bool} {c : Char} {later rest : List Char} {lead : Int}
    (whole : IsWhole [c]) (digits : AllDigits later)
    (small : digitsValue (c :: later) < significandBound) (exponent : lead.natAbs ≤ maxExponent)
    (ends : EndsValue rest) :
    number negative (NumberLayout.writeExponent (c :: later) lead ++ rest) =
      finish ⟨negative, digitsValue (c :: later), lead - later.length⟩ rest := by
  have tail := fun p => @exponentPart_digits p lead rest exponent ends.endsDigits
  cases later with
  | nil =>
      show number negative ([c] ++ 'e' :: (_ :: (decimalDigits lead.natAbs ++ rest))) = _
      rw [number_whole whole small (.cons rfl)]
      refine (tail ⟨negative, digitsValue [c], 0⟩).trans (congrArg (finish · rest) ?_)
      congr 1
      show 0 + lead = lead - (0 : Nat)
      omega
  | cons d later =>
      have text : NumberLayout.writeExponent (c :: d :: later) lead ++ rest = [c] ++ '.' ::
          ((d :: later) ++ 'e' :: ((if lead < 0 then '-' else '+') ::
            (decimalDigits lead.natAbs ++ rest))) := by
        simp only [NumberLayout.writeExponent, List.append_assoc, List.cons_append, List.nil_append]
      rw [text, number_point whole digits (by simp) small (.cons rfl)]
      refine (tail ⟨negative, digitsValue (c :: d :: later), _⟩).trans (congrArg (finish · rest) ?_)
      congr 1
      exact Int.add_comm ..

/-- The text of a decimal with an exponent. -/
theorem readsReal_writeExponent {negative : Bool} {d : Decimal} (readable : d.Readable) :
    ReadsReal negative (NumberLayout.writeExponent (decimalDigits d.digits)
      (d.exponent + ((decimalDigits d.digits).length : Int) - 1)) := by
  have value := digitsValue_decimalDigits d.digits
  have few := readable.few
  have bound : 10 ^ 17 < significandBound := by decide
  have exponent :
      (d.exponent + ((decimalDigits d.digits).length : Int) - 1).natAbs ≤ maxExponent := by
    have short : (decimalDigits d.digits).length ≤ 18 :=
      (Nat.length_toDigits_le_iff (by decide) (by decide)).2 (by omega)
    have := readable.least
    have := readable.most
    have : 1000 ≤ maxExponent := by decide
    omega
  have front := (isWhole_decimalDigits d.digits).take (k := 1) (by decide)
  have digits := allDigits_decimalDigits d.digits
  generalize decimalDigits d.digits = ds at value exponent front digits ⊢
  obtain ⟨x, finished⟩ := finish_inRange (p := ⟨negative, d.digits, d.exponent⟩) readable.inRange
  refine ⟨x, fun rest ends => ?_⟩
  cases ds with
  | nil => exact absurd front.lead (by simp)
  | cons c later =>
      have lead : d.exponent + ((c :: later).length : Int) - 1 - later.length = d.exponent := by
        rw [List.length_cons]
        push_cast
        omega
      rw [number_scientific front (List.forall_mem_cons.1 digits).2 (by omega) exponent ends, value,
        lead, finished]

/-- **The text of a readable decimal is read as a double.** -/
theorem readsReal_writeDecimal (negative : Bool) {d : Decimal} (readable : d.Readable) :
    ReadsReal negative (numberLayout.writeDecimal d) := by
  unfold NumberLayout.writeDecimal
  dsimp only
  split
  · rename_i positional
    simp only [NumberLayout.isPositional, numberLayout, Bool.and_eq_true, decide_eq_true_eq]
      at positional
    refine readsReal_writePoint readable.few (fun zero => ?_) (by omega)
    have length : (decimalDigits d.digits).length = 1 := by rw [zero]; rfl
    obtain none | high := readable.zero zero <;> omega
  · exact readsReal_writeExponent readable

end Json

end ConsoleView
