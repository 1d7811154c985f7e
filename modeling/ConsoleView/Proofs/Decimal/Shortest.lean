/-
# ConsoleView.Proofs.Decimal.Shortest -- the digits of a double can be read

The shortest decimal of a double lies in the interval that rounds to it and has at
most eighteen digits (`shortest_spec`).  When it is read it is in range
(`readable_shortest`): the intervals end below `2 ^ 1024` by more than the roundings
of the reader add, but for those of the ten largest doubles, whose digits are read
one by one.
-/
import ConsoleView.Decimal.Shortest
import ConsoleView.Proofs.Decimal.Bounded
import Mathlib.Tactic.Linarith

namespace ConsoleView

set_option autoImplicit false

/-! ## The parts of a double -/

/-- The parts of a finite double. -/
structure Dyadic.IsDouble (x : Dyadic) : Prop where
  bits : x.mantissa < 2 ^ 53
  least : -1074 ≤ x.exponent
  most : x.exponent ≤ 971
  narrow : x.narrow = true → x.mantissa = 2 ^ 52

theorem isDouble_ofBits {bits : UInt64} {negative : Bool} {x : Dyadic}
    (finite : Double.ofBits bits = .finite negative x) : x.IsDouble := by
  unfold Double.ofBits at finite
  dsimp only at finite
  have fraction : bits.toNat % hiddenBit < hiddenBit := Nat.mod_lt _ (by decide)
  have hidden : hiddenBit = 2 ^ 52 := by decide
  split at finite
  · split at finite <;> cases finite
  · rename_i ordinary
    simp only [beq_iff_eq] at ordinary
    split at finite
    · cases finite
      refine ⟨?_, le_rfl, ?_, nofun⟩
      · show bits.toNat % hiddenBit < 2 ^ 53
        omega
      · show (-1074 : Int) ≤ 971
        decide
    · rename_i normal
      simp only [beq_iff_eq] at normal
      cases finite
      refine ⟨?_, ?_, ?_, fun narrow => ?_⟩
      · show _ + _ < 2 ^ 53
        omega
      · show (-1074 : Int) ≤ _ - _
        omega
      · show _ - _ ≤ (971 : Int)
        omega
      · simp only [Bool.and_eq_true, beq_iff_eq] at narrow
        show _ + _ = 2 ^ 52
        omega

theorem TieRule.choose_eq (rule : TieRule) (n : Nat) :
    rule.choose n = n ∨ rule.choose n = n + 1 := by
  cases rule with
  | toEven =>
      show (if n % 2 == 0 then n else n + 1) = n ∨ (if n % 2 == 0 then n else n + 1) = n + 1
      split
      · exact .inl rfl
      · exact .inr rfl
  | away => exact .inr rfl

/-! ## Numbers of digits -/

theorem lt_pow_length (n : Nat) : n < 10 ^ (decimalDigits n).length :=
  (Nat.length_toDigits_le_iff (by decide) Nat.length_toDigits_pos).1 le_rfl

theorem pow_length_le {n : Nat} (positive : 0 < n) : 10 ^ ((decimalDigits n).length - 1) ≤ n := by
  by_contra below
  by_cases short : (decimalDigits n).length - 1 = 0
  · rw [short] at below
    omega
  · have fewer := (Nat.length_toDigits_le_iff (by decide) (Nat.pos_of_ne_zero short)).2
      (Nat.lt_of_not_le below)
    have : (decimalDigits n).length ≤ (decimalDigits n).length - 1 := fewer
    omega

namespace Dyadic

variable {x : Dyadic} {rule : TieRule}

/-! ## The grid -/

/-- A power of a base is a power with a natural exponent, over one. -/
theorem powUp_eq (base : Nat) (positive : 0 < base) (e : Int) :
    (powUp base e : ℚ) = (base : ℚ) ^ e * powUp base (-e) := by
  have nonzero : (base : ℚ) ≠ 0 := by exact_mod_cast positive.ne'
  show ((base ^ e.toNat : Nat) : ℚ) = (base : ℚ) ^ e * ((base ^ (-e).toNat : Nat) : ℚ)
  push_cast
  rw [← zpow_natCast, ← zpow_natCast, ← zpow_add₀ nonzero]
  congr 1
  omega

theorem powUp_pos {base : Nat} (positive : 0 < base) (e : Int) : 0 < powUp base e :=
  Nat.pow_pos positive

/-- The unit and the step over their common denominator. -/
theorem unitAndStep_eq (x : Dyadic) (k : Int) :
    ∃ c : ℚ, 0 < c ∧ ((x.unitAndStep k).1 : ℚ) = 2 ^ (x.exponent - 2) * c ∧
      ((x.unitAndStep k).2 : ℚ) = 10 ^ k * c := by
  refine ⟨powUp 2 (2 - x.exponent) * powUp 10 (-k), ?_, ?_, ?_⟩
  · exact_mod_cast Nat.mul_pos (powUp_pos (by decide) _) (powUp_pos (by decide) _)
  · have two := powUp_eq 2 (by decide) (x.exponent - 2)
    rw [neg_sub] at two
    simp only [unitAndStep]
    push_cast
    rw [two]
    push_cast
    ring
  · have ten := powUp_eq 10 (by decide) k
    simp only [unitAndStep]
    push_cast
    rw [ten]
    push_cast
    ring

theorem IsDouble.lowerEnd_pos (double : x.IsDouble) (nonzero : x.mantissa ≠ 0) :
    0 < x.lowerEnd := by
  have narrow := double.narrow
  unfold lowerEnd quarters
  split
  · rename_i shown
    rw [narrow shown]
    decide
  · omega

/-- What a grid point in the interval is: not zero, and at most the upper end. -/
theorem of_admits {k : Int} {n : Nat} (admitted : x.admits k n = true) (low : 0 < x.lowerEnd) :
    0 < n ∧ (n : ℚ) * 10 ^ k ≤ x.upperEnd * 2 ^ (x.exponent - 2) := by
  obtain ⟨c, positive, unit, step⟩ := x.unitAndStep_eq k
  have unitPositive : 0 < (x.unitAndStep k).1 := by
    have : (0 : ℚ) < (x.unitAndStep k).1 := by rw [unit]; positivity
    exact_mod_cast this
  have bounds : x.lowerEnd * (x.unitAndStep k).1 ≤ n * (x.unitAndStep k).2 ∧
      n * (x.unitAndStep k).2 ≤ x.upperEnd * (x.unitAndStep k).1 := by
    simp only [admits] at admitted
    split at admitted
    · simpa using admitted
    · simp only [Bool.and_eq_true, decide_eq_true_eq] at admitted
      exact ⟨admitted.1.le, admitted.2.le⟩
  constructor
  · refine Nat.pos_of_ne_zero ?_
    rintro rfl
    have := Nat.mul_pos low unitPositive
    omega
  · have upper : (n : ℚ) * (x.unitAndStep k).2 ≤ x.upperEnd * (x.unitAndStep k).1 := by
      exact_mod_cast bounds.2
    rw [unit, step, ← mul_assoc, ← mul_assoc] at upper
    exact le_of_mul_le_mul_right upper positive

/-- What is taken from a grid lies in the interval, and is a neighbour of the value. -/
theorem of_onGrid {k : Int} {n : Nat} (taken : x.onGrid rule k = some n) :
    x.admits k n = true ∧ n ≤ x.quarters * (x.unitAndStep k).1 / (x.unitAndStep k).2 + 1 := by
  unfold onGrid at taken
  dsimp only at taken
  generalize x.quarters * (x.unitAndStep k).1 / (x.unitAndStep k).2 = below at taken ⊢
  split at taken
  · rename_i first second
    split at taken
    · cases taken
      exact ⟨first, Nat.le_succ _⟩
    · split at taken
      · cases taken
        exact ⟨second, le_rfl⟩
      · cases taken
        obtain either | either := rule.choose_eq below <;> rw [either]
        · exact ⟨first, Nat.le_succ _⟩
        · exact ⟨second, le_rfl⟩
  · rename_i first _
    cases taken
    exact ⟨first, Nat.le_succ _⟩
  · rename_i second
    cases taken
    exact ⟨second, le_rfl⟩
  · cases taken

/-- Numbers are compared after one of them is multiplied by a power of ten. -/
theorem lt_of_scaled {p q factor : ℚ} {places : Nat} (some : 0 < places)
    (above : p * 10 ^ (places - 1) < factor * q) :
    p < factor * 10 ^ (-(places : Int) + 1) * q := by
  have inverse : (10 : ℚ) ^ (-(places : Int) + 1) * 10 ^ (places - 1) = 1 := by
    rw [← zpow_natCast, ← zpow_add₀ (by norm_num)]
    exact (congrArg _ (by omega)).trans (zpow_zero _)
  have power : (0 : ℚ) < 10 ^ (-(places : Int) + 1) := by positivity
  calc p
    _ = p * 10 ^ (places - 1) * 10 ^ (-(places : Int) + 1) := by
      rw [mul_assoc, mul_comm ((10 : ℚ) ^ (places - 1)), inverse, mul_one]
    _ < factor * q * 10 ^ (-(places : Int) + 1) := mul_lt_mul_of_pos_right above power
    _ = factor * 10 ^ (-(places : Int) + 1) * q := by ring

/-- The value is below the next power of ten after its leading digit. -/
theorem lt_leadingExponent (positive : 0 < x.mantissa) :
    (x.mantissa : ℚ) * 2 ^ x.exponent < 10 ^ (x.leadingExponent + 1) := by
  have up := powUp_eq 2 (by decide) x.exponent
  have denPositive := powUp_pos (by decide : 0 < 2) (-x.exponent)
  have numPositive := Nat.mul_pos positive (powUp_pos (by decide : 0 < 2) x.exponent)
  have value : (x.mantissa : ℚ) * 2 ^ x.exponent * powUp 2 (-x.exponent) =
      (x.mantissa * powUp 2 x.exponent : Nat) := by
    push_cast
    rw [up]
    push_cast
    ring
  unfold leadingExponent
  dsimp only
  generalize x.mantissa * powUp 2 x.exponent = num at numPositive value ⊢
  generalize powUp 2 (-x.exponent) = den at denPositive value ⊢
  have denCast : (0 : ℚ) < den := by exact_mod_cast denPositive
  refine lt_of_mul_lt_mul_right ?_ denCast.le
  rw [value]
  split
  · rw [sub_add_cancel, zpow_natCast]
    have quotient := (Nat.div_lt_iff_lt_mul denPositive).1 (lt_pow_length (num / den))
    exact_mod_cast quotient
  · rename_i small
    have quotient := (Nat.le_div_iff_mul_le numPositive).1
      (pow_length_le (Nat.div_pos (Nat.le_of_not_le small) numPositive))
    have places : 0 < (decimalDigits (den / num)).length := Nat.length_toDigits_pos
    generalize (decimalDigits (den / num)).length = L at quotient places ⊢
    split
    · rename_i power
      have next : 1 - (L : Int) + 1 = 1 + (-(L : Int) + 1) := by omega
      rw [next, zpow_add₀ (by norm_num), zpow_one]
      refine lt_of_scaled places ?_
      have : (den : ℚ) = num * 10 ^ (L - 1) := by exact_mod_cast power
      rw [← this]
      linarith
    · rename_i between
      rw [← one_mul ((10 : ℚ) ^ _)]
      refine lt_of_scaled places ?_
      rw [one_mul]
      have below : num * 10 ^ (L - 1) < den :=
        lt_of_le_of_ne (by rwa [mul_comm]) fun equal => between equal.symm
      exact_mod_cast below

/-- The lower neighbour of the value on a grid has few digits. -/
theorem neighbour_lt (positive : 0 < x.mantissa) (i : Nat) :
    x.quarters * (x.unitAndStep (x.leadingExponent - i)).1 /
      (x.unitAndStep (x.leadingExponent - i)).2 < 10 ^ (i + 1) := by
  obtain ⟨c, c_pos, unit, step⟩ := x.unitAndStep_eq (x.leadingExponent - i)
  have stepPositive : 0 < (x.unitAndStep (x.leadingExponent - i)).2 := by
    have : (0 : ℚ) < (x.unitAndStep (x.leadingExponent - i)).2 := by rw [step]; positivity
    exact_mod_cast this
  rw [Nat.div_lt_iff_lt_mul stepPositive]
  have value : (x.quarters : ℚ) * (x.unitAndStep (x.leadingExponent - i)).1 <
      10 ^ (i + 1) * (x.unitAndStep (x.leadingExponent - i)).2 := by
    calc (x.quarters : ℚ) * (x.unitAndStep (x.leadingExponent - i)).1
      _ = x.mantissa * 2 ^ x.exponent * c := by
        rw [unit, zpow_sub₀ (by norm_num), quarters]
        push_cast
        ring
      _ < 10 ^ (x.leadingExponent + 1) * c :=
        mul_lt_mul_of_pos_right (lt_leadingExponent positive) c_pos
      _ = 10 ^ (i + 1) * (x.unitAndStep (x.leadingExponent - i)).2 := by
        rw [step, ← mul_assoc, ← zpow_natCast, ← zpow_add₀ (by norm_num)]
        congr 2
        push_cast
        ring
  exact_mod_cast value

/-! ## The digits -/

theorem stripZeros_spec (fuel : Nat) (d : Decimal) :
    ((d.stripZeros fuel).digits : ℚ) * 10 ^ (d.stripZeros fuel).exponent =
        d.digits * 10 ^ d.exponent ∧
      (d.stripZeros fuel).digits ≤ d.digits ∧ (0 < d.digits → 0 < (d.stripZeros fuel).digits) ∧
      d.exponent ≤ (d.stripZeros fuel).exponent := by
  induction fuel generalizing d with
  | zero => exact ⟨rfl, le_rfl, id, le_rfl⟩
  | succ fuel ih =>
      rw [Decimal.stripZeros]
      split
      · rename_i zero
        simp only [beq_iff_eq] at zero
        obtain ⟨value, fewer, positive, later⟩ := ih ⟨d.digits / 10, d.exponent + 1⟩
        have whole : d.digits = d.digits / 10 * 10 := by omega
        refine ⟨?_, fewer.trans (Nat.div_le_self _ _), fun some => positive ?_,
          (Int.le_add_one le_rfl).trans later⟩
        · rw [value]
          conv_rhs => rw [whole]
          rw [zpow_add₀ (by norm_num)]
          push_cast
          ring
        · show 0 < d.digits / 10
          omega
      · exact ⟨rfl, le_rfl, id, le_rfl⟩

/-- A decimal that is not zero, has few digits, and is not above the interval of a double. -/
structure IsShort (x : Dyadic) (d : Decimal) : Prop where
  positive : 0 < d.digits
  few : d.digits ≤ 10 ^ 17
  least : -340 ≤ d.exponent
  upper : (d.digits : ℚ) * 10 ^ d.exponent ≤ x.upperEnd * 2 ^ (x.exponent - 2)

/-- The leading digit of a double is not far behind the point. -/
theorem IsDouble.leadingExponent_ge (double : x.IsDouble) (nonzero : x.mantissa ≠ 0) :
    -324 ≤ x.leadingExponent := by
  by_contra small
  have positive := Nat.pos_of_ne_zero nonzero
  have below : (2 : ℚ) ^ (-1074 : Int) < 10 ^ (-324 : Int) := by
    calc (2 : ℚ) ^ (-1074 : Int)
      _ ≤ 2 ^ x.exponent := zpow_le_zpow_right₀ (by norm_num) double.least
      _ ≤ x.mantissa * 2 ^ x.exponent :=
        le_mul_of_one_le_left (by positivity) (by exact_mod_cast positive)
      _ < 10 ^ (x.leadingExponent + 1) := lt_leadingExponent positive
      _ ≤ 10 ^ (-324 : Int) := zpow_le_zpow_right₀ (by norm_num) (by omega)
  have powers : (2 : ℚ) ^ 1074 ≤ 10 ^ 324 := by
    exact_mod_cast (show 2 ^ 1074 ≤ 10 ^ 324 by decide +kernel)
  have above := inv_anti₀ (by positivity) powers
  exact lt_irrefl _ (below.trans_le above)

/-- **The shortest decimal of a double is zero, or short.** -/
theorem shortest_spec (rule : TieRule) (double : x.IsDouble) :
    x.shortest rule = ⟨0, 0⟩ ∨ x.shortest rule = ⟨0, 17⟩ ∨ x.IsShort (x.shortest rule) := by
  unfold shortest
  split
  · exact .inl rfl
  · rename_i nonzero
    dsimp only
    cases found : (List.range 17).findSome? (fun (i : Nat) =>
      (x.onGrid rule (x.leadingExponent - i)).map
        fun n => (⟨n, x.leadingExponent - i⟩ : Decimal)) with
    | none => exact .inr (.inl (by decide))
    | some d =>
        refine .inr (.inr ?_)
        obtain ⟨i, listed, taken⟩ := List.exists_of_findSome?_eq_some found
        obtain ⟨n, onGrid, rfl⟩ := Option.map_eq_some_iff.1 taken
        have place := List.mem_range.1 listed
        obtain ⟨admitted, near⟩ := of_onGrid onGrid
        obtain ⟨positive, upper⟩ := of_admits admitted (double.lowerEnd_pos nonzero)
        obtain ⟨value, fewer, some, later⟩ := stripZeros_spec 17 ⟨n, x.leadingExponent - i⟩
        have few : n ≤ 10 ^ 17 := by
          have := neighbour_lt (Nat.pos_of_ne_zero nonzero) i
          have : 10 ^ (i + 1) ≤ 10 ^ 17 := Nat.pow_le_pow_right (by decide) place
          omega
        have least : -340 ≤ x.leadingExponent - i := by
          have := double.leadingExponent_ge nonzero
          omega
        exact ⟨some positive, fewer.trans few, least.trans later, value ▸ upper⟩

/-! ## Reading the digits -/

theorem two_pow_lt_ten_pow : (2 : ℚ) ^ 1024 < 10 ^ 309 := by
  exact_mod_cast (show 2 ^ 1024 < 10 ^ 309 by decide +kernel)

/-- The interval of a double ends at `2 ^ 1024` or before. -/
theorem IsDouble.upperEnd_lt (double : x.IsDouble) :
    (x.upperEnd : ℚ) * 2 ^ (x.exponent - 2) < 2 ^ 1024 := by
  have mantissa : (x.upperEnd : ℚ) < 2 ^ 55 := by
    have := double.bits
    exact_mod_cast (show x.upperEnd < 2 ^ 55 by unfold upperEnd quarters; omega)
  have exponent := double.most
  calc (x.upperEnd : ℚ) * 2 ^ (x.exponent - 2)
    _ ≤ x.upperEnd * 2 ^ (969 : Int) := mul_le_mul_of_nonneg_left
      (zpow_le_zpow_right₀ (by norm_num) (by omega)) (by positivity)
    _ < 2 ^ 55 * 2 ^ (969 : Int) := mul_lt_mul_of_pos_right mantissa (by positivity)
    _ = 2 ^ 1024 := (pow_add 2 55 969).symm

theorem IsShort.most {d : Decimal} (short : x.IsShort d) (double : x.IsDouble) :
    d.exponent ≤ 308 := by
  by_contra large
  have above : (10 : ℚ) ^ 309 ≤ d.digits * 10 ^ d.exponent := by
    calc (10 : ℚ) ^ (309 : Int)
      _ ≤ 10 ^ d.exponent := zpow_le_zpow_right₀ (by norm_num) (by omega)
      _ ≤ d.digits * 10 ^ d.exponent :=
        le_mul_of_one_le_left (by positivity) (by exact_mod_cast short.positive)
  exact lt_irrefl _
    (two_pow_lt_ten_pow.trans_le (above.trans (short.upper.trans double.upperEnd_lt.le)))

/-- The ten largest doubles. -/
theorem scaled_largest : ∀ i < 10,
    (Decimal.scaled (Dyadic.shortest ⟨2 ^ 53 - 1 - i, 971, false⟩ .toEven).digits
      (Dyadic.shortest ⟨2 ^ 53 - 1 - i, 971, false⟩ .toEven).exponent).isSome = true := by
  decide +kernel

/-- Below the ten largest doubles there is room for the roundings. -/
theorem IsDouble.upperEnd_le (double : x.IsDouble)
    (smaller : x.exponent ≤ 970 ∨ x.mantissa < 2 ^ 53 - 10) :
    (x.upperEnd : ℚ) * 2 ^ (x.exponent - 2) ≤ (2 ^ 55 - 42) * 2 ^ 969 := by
  obtain ⟨bits, -, most, -⟩ := double
  have power : ∀ {e f : Int}, e ≤ f → (2 : ℚ) ^ e ≤ 2 ^ f :=
    fun le => zpow_le_zpow_right₀ (by norm_num) le
  obtain low | low := smaller
  · have mantissa : (x.upperEnd : ℚ) ≤ 2 ^ 55 := by
      exact_mod_cast (show x.upperEnd ≤ 2 ^ 55 by unfold upperEnd quarters; omega)
    calc (x.upperEnd : ℚ) * 2 ^ (x.exponent - 2)
      _ ≤ 2 ^ 55 * 2 ^ (968 : Int) :=
        mul_le_mul mantissa (power (by omega)) (by positivity) (by positivity)
      _ ≤ (2 ^ 55 - 42) * 2 * 2 ^ (968 : Int) :=
        mul_le_mul_of_nonneg_right (by norm_num) (by positivity)
      _ = (2 ^ 55 - 42) * 2 ^ 969 := by
        rw [mul_assoc, ← zpow_one_add₀ (by norm_num)]
        rfl
  · have mantissa : (x.upperEnd : ℚ) ≤ 2 ^ 55 - 42 := by
      have : x.upperEnd + 42 ≤ 2 ^ 55 := by unfold upperEnd quarters; omega
      have : (x.upperEnd : ℚ) + 42 ≤ 2 ^ 55 := by exact_mod_cast this
      linarith
    calc (x.upperEnd : ℚ) * 2 ^ (x.exponent - 2)
      _ ≤ (2 ^ 55 - 42) * 2 ^ (969 : Int) :=
        mul_le_mul mantissa (power (by omega)) (by positivity) (by norm_num)
      _ = (2 ^ 55 - 42) * 2 ^ 969 := by rfl

theorem roundings_lt : ((2 : ℚ) ^ 55 - 42) * 2 ^ 969 * slack ^ 5 < 2 ^ 1024 := by
  have mantissa : ((2 : ℚ) ^ 55 - 42) * slack ^ 5 < 2 ^ 55 := by norm_num [slack]
  calc ((2 : ℚ) ^ 55 - 42) * 2 ^ 969 * slack ^ 5
    _ = (2 ^ 55 - 42) * slack ^ 5 * 2 ^ 969 := mul_right_comm _ _ _
    _ < 2 ^ 55 * 2 ^ 969 := mul_lt_mul_of_pos_right mantissa (by positivity)
    _ = 2 ^ 1024 := (pow_add 2 55 969).symm

/-- A short decimal of a double that is not among the largest is in range. -/
theorem IsShort.scaled_isSome {d : Decimal} (short : x.IsShort d) (double : x.IsDouble)
    (smaller : x.exponent ≤ 970 ∨ x.mantissa < 2 ^ 53 - 10) :
    (Decimal.scaled d.digits d.exponent).isSome = true := by
  by_cases whole : 0 ≤ d.exponent
  · obtain ⟨k, exponent⟩ := Int.eq_ofNat_of_zero_le whole
    have most := short.most double
    have upper := short.upper.trans (double.upperEnd_le smaller)
    rw [exponent] at upper most ⊢
    rw [zpow_natCast] at upper
    have positive : 0 ≤ slack ^ 5 := pow_nonneg (zero_le_one.trans one_le_slack) 5
    have most : k ≤ 308 := by omega
    exact Decimal.scaled_isSome short.positive (short.few.trans_lt (by decide)) most
      ((mul_le_mul_of_nonneg_right upper positive).trans_lt roundings_lt)
  · unfold Decimal.scaled
    rw [if_neg whole]
    rfl

end Dyadic

/-- A decimal whose text is read to a double: it has few digits, zero has one of two exponents, and
it is in range. -/
structure Decimal.Readable (d : Decimal) : Prop where
  few : d.digits ≤ 10 ^ 17
  zero : d.digits = 0 → d.exponent = 0 ∨ d.exponent = 17
  least : -340 ≤ d.exponent
  most : d.exponent ≤ 308
  inRange : (Decimal.scaled d.digits d.exponent).isSome = true

/-- **The shortest decimal of a double can be read.** -/
theorem Dyadic.readable_shortest {x : Dyadic} (double : x.IsDouble) :
    (x.shortest .toEven).Readable := by
  obtain zero | zero | short := shortest_spec .toEven double
  · rw [zero]
    exact ⟨by decide, fun _ => .inl rfl, by decide, by decide, by decide +kernel⟩
  · rw [zero]
    exact ⟨by decide, fun _ => .inr rfl, by decide, by decide, by decide +kernel⟩
  · refine ⟨short.few, fun zero => absurd zero short.positive.ne', short.least,
      short.most double, ?_⟩
    by_cases smaller : x.exponent ≤ 970 ∨ x.mantissa < 2 ^ 53 - 10
    · exact short.scaled_isSome double smaller
    · obtain ⟨bits, -, most, narrow⟩ := double
      obtain ⟨mantissa, exponent, wide⟩ := x
      simp only [not_or, not_le, not_lt] at smaller bits most narrow
      obtain rfl : exponent = 971 := by omega
      obtain rfl : wide = false := by
        cases wide
        · rfl
        · have := narrow rfl
          omega
      have place : mantissa = 2 ^ 53 - 1 - (2 ^ 53 - 1 - mantissa) := by omega
      rw [place]
      exact scaled_largest _ (by omega)

end ConsoleView
