/-
# ConsoleView.Proofs.Decimal.Bounded -- how large a decimal is read

A rounding makes a number larger by no more than one part in `2 ^ 52`
(`atMost_round`), or keeps it below one.  A decimal whose digits fit sixty-four
bits is read in at most five roundings, so it is in range as long as five of
these parts more are below `2 ^ 1024` (`scaled_isSome`).
-/
import ConsoleView.Decimal.Scaled
import ConsoleView.Proofs.Decimal.Whole
import Mathlib.Algebra.Order.Field.Power
import Mathlib.Algebra.Order.Field.Rat
import Mathlib.Data.Nat.Cast.Order.Field
import Mathlib.Tactic.FieldSimp
import Mathlib.Tactic.Positivity
import Mathlib.Tactic.Ring

namespace ConsoleView

set_option autoImplicit false

open Float.Model Float.Model.UnpackedFloat

/-! ## Sizes -/

/-- The mantissa of a double has fifty-three bits, or fewer at the least exponent. -/
structure FitsDouble (m : Nat) (e : Int) : Prop where
  bits : m < 2 ^ 53
  least : -1074 ≤ e
  full : 2 ^ 52 ≤ m ∨ e = -1074

/-- The number is a zero, or it has the parts of a double and its size is at most `q`. -/
inductive AtMost (q : ℚ) : UnpackedFloat → Prop where
  | zero (s : Sign) : AtMost q (.zero s)
  | finite (s : Sign) (m : Nat) (e : Int) (positive : 0 < m) (fits : FitsDouble m e)
      (le : (m : ℚ) * 2 ^ e ≤ q) : AtMost q (.finite s m e positive)

/-- The factor by which a rounding makes a number larger at most. -/
def slack : ℚ := 1 + 1 / 2 ^ 52

theorem one_le_slack : 1 ≤ slack := by norm_num [slack]

theorem AtMost.mono {p q : ℚ} {u : UnpackedFloat} (bound : AtMost p u) (le : p ≤ q) :
    AtMost q u := by
  cases bound with
  | zero s => exact .zero s
  | finite s m e positive fits small => exact .finite s m e positive fits (small.trans le)

/-! ## Rounding -/

theorem mantissa_shiftRight_eq (em : ExtendedMantissa) (n : Nat) :
    (em >>> n).mantissa = em.mantissa / 2 ^ n := by
  show (n.repeat ExtendedMantissa.shiftRightOne em).mantissa = _
  induction n with
  | zero => exact (Nat.div_one _).symm
  | succ n ih =>
      show (n.repeat ExtendedMantissa.shiftRightOne em).mantissa / 2 = _
      rw [ih, Nat.div_div_eq_div_mul, Nat.pow_succ]

theorem le_roundedMantissa (em : ExtendedMantissa) : em.mantissa ≤ em.roundedMantissa := by
  obtain ⟨m, round, sticky⟩ := em
  cases round <;> cases sticky <;>
    simp only [ExtendedMantissa.roundedMantissa, ExtendedMantissa.accuracy,
      Accuracy.roundToNearestEven] <;> omega

/-- A mantissa that is not too short is shifted to the parts of a double, and loses digits only. -/
theorem fits_shiftToTargetExponent {m : Nat} {e : Int} (enough : 2 ^ 52 ≤ m ∨ e ≤ -1074) :
    let shifted := shiftToTargetExponent Format.binary64 m e .exact
    FitsDouble shifted.1.mantissa shifted.2 ∧
      (shifted.1.mantissa : ℚ) * 2 ^ shifted.2 ≤ m * 2 ^ e := by
  have long : 2 ^ 52 ≤ m → 52 ≤ m.log2 := fun full => (Nat.le_log2 (by omega)).2 full
  simp only [shiftToTargetExponent, shiftToExponent, mantissa_shiftRight_eq,
    targetExponent_binary64, ExtendedMantissa.ofMantissaAndAccuracy]
  generalize shift : (max ((m.log2 : Int) + e - 52) (-1074) - e).toNat = n
  refine ⟨⟨?_, by omega, ?_⟩, ?_⟩
  · rw [Nat.div_lt_iff_lt_mul (Nat.two_pow_pos n), ← Nat.pow_add]
    exact Nat.lt_log2_self.trans_le (Nat.pow_le_pow_right (by decide) (by omega))
  · by_cases exponent : e + n = -1074
    · exact .inr exponent
    · have positive : m ≠ 0 := by
        rintro rfl
        simp only [Nat.log2_zero] at shift
        omega
      refine .inl ((Nat.le_div_iff_mul_le (Nat.two_pow_pos n)).2 ?_)
      rw [← Nat.pow_add]
      exact (Nat.pow_le_pow_right (by decide) (by omega)).trans (Nat.log2_self_le positive)
  · calc ((m / 2 ^ n : Nat) : ℚ) * 2 ^ (e + n)
      _ ≤ (m / 2 ^ n) * 2 ^ (e + n) := by
        refine mul_le_mul_of_nonneg_right ?_ (by positivity)
        exact_mod_cast Nat.cast_div_le
      _ = m * 2 ^ e := by
        rw [zpow_add₀ (by norm_num), zpow_natCast]
        field_simp

/-- A unit in the last place is a small part of the number, or of one. -/
theorem unit_le {m : Nat} {e : Int} {q : ℚ} (fits : FitsDouble m e) (one : 1 ≤ q)
    (bound : (m : ℚ) * 2 ^ e ≤ q) : (2 : ℚ) ^ e ≤ q / 2 ^ 52 := by
  rw [le_div_iff₀ (by norm_num)]
  obtain full | rfl := fits.full
  · calc (2 : ℚ) ^ e * 2 ^ 52
      _ ≤ 2 ^ e * m := mul_le_mul_of_nonneg_left (by exact_mod_cast full) (by positivity)
      _ ≤ q := by rwa [mul_comm]
  · have small : (2 : ℚ) ^ (-1074 : Int) * 2 ^ 52 ≤ 1 := by
      rw [← zpow_natCast, ← zpow_add₀ (by norm_num)]
      exact zpow_le_one_of_nonpos₀ (by norm_num) (by norm_num)
    exact small.trans one

/-- **A rounded number is larger by the slack at most.**  If the carry makes the mantissa too long,
the second shift drops a zero. -/
theorem atMost_round {s : Sign} {m : Nat} {e : Int} {q : ℚ} (enough : 2 ^ 52 ≤ m ∨ e ≤ -1074)
    (one : 1 ≤ q) (bound : (m : ℚ) * 2 ^ e ≤ q) :
    AtMost (q * slack) (roundWithAccuracy Format.binary64 s m e .exact) := by
  obtain ⟨fits, shorter⟩ := fits_shiftToTargetExponent enough
  unfold roundWithAccuracy
  generalize shiftToTargetExponent Format.binary64 m e .exact = first at fits shorter ⊢
  have low := le_roundedMantissa first.1
  have rounded : (first.1.roundedMantissa : ℚ) * 2 ^ first.2 ≤ q * slack := by
    have unit := unit_le fits one (shorter.trans bound)
    calc (first.1.roundedMantissa : ℚ) * 2 ^ first.2
      _ ≤ (first.1.mantissa + 1) * 2 ^ first.2 :=
        mul_le_mul_of_nonneg_right (by exact_mod_cast roundedMantissa_le first.1) (by positivity)
      _ = first.1.mantissa * 2 ^ first.2 + 2 ^ first.2 := by ring
      _ ≤ q + q / 2 ^ 52 := add_le_add (shorter.trans bound) unit
      _ = q * slack := by rw [slack]; ring
  have stillEnough : 2 ^ 52 ≤ first.1.roundedMantissa ∨ first.2 ≤ -1074 :=
    fits.full.imp (fun full => full.trans low) le_of_eq
  obtain ⟨again, shorterAgain⟩ := fits_shiftToTargetExponent stillEnough
  dsimp only
  exact of_dite (fun _ => .zero s) fun _ => .finite _ _ _ _ again (shorterAgain.trans rounded)

/-! ## Bits -/

theorem exponent_le {m : Nat} {e : Int} {q : ℚ} (fits : FitsDouble m e)
    (bound : (m : ℚ) * 2 ^ e ≤ q) (small : q < 2 ^ 1024) : e ≤ 971 := by
  obtain full | rfl := fits.full
  · have size : (2 : ℚ) ^ ((52 : Nat) + e) < 2 ^ ((1024 : Nat) : Int) := by
      rw [zpow_add₀ (by norm_num), zpow_natCast, zpow_natCast]
      refine lt_of_le_of_lt ?_ small
      exact (mul_le_mul_of_nonneg_right (by exact_mod_cast full) (by positivity)).trans bound
    have := (zpow_lt_zpow_iff_right₀ (by norm_num : (1 : ℚ) < 2)).1 size
    omega
  · decide

/-- The bits of an exponent and a fraction stand for a number of that size. -/
theorem atMost_unpack_packComponents {s : Sign} {n f : Nat} {q : ℚ} (finite : n < 2047)
    (fraction : f < 2 ^ 52) (small : n = 0 → (f : ℚ) * 2 ^ (-1074 : Int) ≤ q)
    (large : n ≠ 0 → ((2 ^ 52 + f : Nat) : ℚ) * 2 ^ ((n : Int) - 1075) ≤ q) :
    AtMost q (UnpackedFloat.unpack Format.binary64
      (packComponents Format.binary64 s (BitVec.ofNat 11 n) (BitVec.ofNat 52 f))) := by
  have exponent : (BitVec.ofNat 11 n).toNat = n := by
    rw [BitVec.toNat_ofNat]
    omega
  have mantissa : (BitVec.ofNat 52 f).toNat = f := by
    rw [BitVec.toNat_ofNat]
    omega
  refine of_unpack ?_ .zero ?_ ?_ <;>
    rw [unpackExponent_packComponents, exponent]
  · exact fun infinite => absurd infinite (Nat.ne_of_lt finite)
  · rintro t _ _ positive rfl same rfl
    rw [unpackMantissa_packComponents, mantissa] at same
    subst same
    exact .finite _ _ _ _ ⟨by omega, by decide, .inr rfl⟩ (small rfl)
  · rintro t _ _ positive some same rfl
    rw [unpackMantissa_packComponents, mantissa] at same
    subst same
    exact .finite _ _ _ _ ⟨by omega, by omega, .inl (by omega)⟩ (large some)

/-- A size below `2 ^ 1024` stays when a double is packed into bits. -/
theorem atMost_unpack_pack {q : ℚ} {u : UnpackedFloat} (bound : AtMost q u) (small : q < 2 ^ 1024) :
    AtMost q (Float.Model.pack u).unpack := by
  cases bound with
  | zero s =>
      show AtMost q (UnpackedFloat.unpack Format.binary64 (packComponents _ s 0 0))
      cases s <;> exact .zero _
  | finite s m e positive fits le =>
      have most := exponent_le fits le small
      have least := fits.least
      have bits := fits.bits
      show AtMost q (UnpackedFloat.unpack Format.binary64 (UnpackedFloat.pack _ _))
      unfold UnpackedFloat.pack
      dsimp only
      rw [if_neg (by show ¬ 2048 ≤ (e + 1023 + 52).toNat + 1; omega)]
      have unbiased : (((e + 1023 + 52).toNat : Nat) : Int) - 1075 = e := by omega
      split
      · rename_i normal
        have full : 2 ^ 52 ≤ m := (Nat.le_log2 (by omega)).1 (by
          have : m.log2 + 1 = 53 := normal
          omega)
        have fraction : BitVec.ofNat 52 m = BitVec.ofNat 52 (m - 2 ^ 52) := by
          apply BitVec.eq_of_toNat_eq
          rw [BitVec.toNat_ofNat, BitVec.toNat_ofNat]
          omega
        rw [fraction]
        show AtMost q (UnpackedFloat.unpack Format.binary64 (packComponents _ s
          (BitVec.ofNat 11 (e + 1023 + 52).toNat) _))
        refine atMost_unpack_packComponents (by omega) (by omega) (by omega) fun _ => ?_
        rwa [unbiased, Nat.add_sub_cancel' full]
      · rename_i subnormal
        have short : m < 2 ^ 52 := by
          by_contra full
          have log : m.log2 = 52 := (Nat.log2_eq_iff (by omega)).2 ⟨by omega, bits⟩
          exact subnormal (congrArg (· + 1) log)
        obtain full | rfl := fits.full
        · omega
        · exact atMost_unpack_packComponents (n := 0) (by decide) short (fun _ => le) (by simp)

theorem AtMost.isInf {q : ℚ} {u : UnpackedFloat} (bound : AtMost q u) : u.isInf = false := by
  cases bound <;> rfl

/-! ## Products -/

theorem atMost_mul {p q : ℚ} {u v : UnpackedFloat} (first : AtMost p u) (second : AtMost q v)
    (oneP : 1 ≤ p) (oneQ : 1 ≤ q) :
    AtMost (p * q * slack) (UnpackedFloat.mul Format.binary64 u v) := by
  cases first with
  | zero s => cases second <;> exact .zero _
  | finite s m e hm fitsM leM =>
      cases second with
      | zero t => exact .zero _
      | finite t n f hn fitsN leN =>
          have enough : 2 ^ 52 ≤ m * n ∨ e + f ≤ -1074 := by
            obtain full | rfl := fitsM.full
            · exact .inl (full.trans (Nat.le_mul_of_pos_right m hn))
            · obtain full | rfl := fitsN.full
              · exact .inl (full.trans (Nat.le_mul_of_pos_left n hm))
              · exact .inr (by decide)
          refine atMost_round enough (one_le_mul_of_one_le_of_one_le oneP oneQ) ?_
          calc ((m * n : Nat) : ℚ) * 2 ^ (e + f)
            _ = (m * 2 ^ e) * (n * 2 ^ f) := by
              rw [zpow_add₀ (by norm_num)]
              push_cast
              ring
            _ ≤ p * q := mul_le_mul leM leN (by positivity) (zero_le_one.trans oneP)

theorem atMost_mul_float {p q : ℚ} {x y : Float} (first : AtMost p x.toModel.unpack)
    (second : AtMost q y.toModel.unpack) (oneP : 1 ≤ p) (oneQ : 1 ≤ q)
    (small : p * q * slack < 2 ^ 1024) : AtMost (p * q * slack) (x * y).toModel.unpack :=
  atMost_unpack_pack (atMost_mul first second oneP oneQ) small

/-! ## Decimals -/

/-- Whether the number is below `2 ^ 22` times a double, and at most `n`. -/
def atMostNat (n : Nat) : UnpackedFloat → Bool
  | .finite _ m e _ => 2 ^ 52 ≤ m && m < 2 ^ 53 && -52 ≤ e && m * 2 ^ (e + 52).toNat ≤ n * 2 ^ 52
  | _ => false

theorem atMost_of_atMostNat {n : Nat} {u : UnpackedFloat} (check : atMostNat n u = true) :
    AtMost n u := by
  cases u with
  | finite s m e positive =>
      have unfolded : (2 ^ 52 ≤ m && m < 2 ^ 53 && -52 ≤ e &&
        m * 2 ^ (e + 52).toNat ≤ n * 2 ^ 52 : Bool) = true := check
      simp only [Bool.and_eq_true, decide_eq_true_eq] at unfolded
      obtain ⟨⟨⟨full, bits⟩, low⟩, size⟩ := unfolded
      refine .finite _ _ _ _ ⟨bits, by omega, .inl full⟩ ?_
      have exponent : e = ((e + 52).toNat : Int) - (52 : Nat) := by omega
      rw [exponent, zpow_sub₀ (by norm_num), zpow_natCast, zpow_natCast, ← mul_div_assoc,
        div_le_iff₀ (by norm_num)]
      exact_mod_cast size
  | _ => cases check

theorem atMostNat_exactPower : ∀ k : Fin Float.exactlyRepresentablePowersOfTen.size,
    atMostNat (10 ^ k.val) Float.exactlyRepresentablePowersOfTen[k].toModel.unpack = true := by
  decide +kernel

/-- The powers of ten that are doubles. -/
theorem atMost_exactPower {k : Nat} (bound : k < Float.exactlyRepresentablePowersOfTen.size) :
    AtMost ((10 : ℚ) ^ k) Float.exactlyRepresentablePowersOfTen[k].toModel.unpack := by
  exact_mod_cast atMost_of_atMostNat (atMostNat_exactPower ⟨k, bound⟩)

theorem atMost_ofUInt64 {n : UInt64} (positive : 0 < n.toNat) :
    AtMost (n.toNat * slack) (UnpackedFloat.ofUInt64 Format.binary64 n) := by
  show AtMost _ (UnpackedFloat.normalize Format.binary64 (n.toNat : Int) 0 .positive)
  unfold UnpackedFloat.normalize
  rw [show compare (n.toNat : Int) 0 = .gt from Int.compare_eq_gt.2 (by omega)]
  show AtMost _ (roundWithAccuracy _ _ (n.toNat <<< (0 - Format.binary64.targetExponent
    (totalExponent n.toNat 0)).toNat) (0 - ((0 - Format.binary64.targetExponent
    (totalExponent n.toNat 0)).toNat : Nat)) _)
  generalize shift : (0 - Format.binary64.targetExponent (totalExponent n.toNat 0)).toNat = k
  rw [targetExponent_binary64] at shift
  refine atMost_round (.inl ?_) (by exact_mod_cast positive) ?_
  · rw [Nat.shiftLeft_eq]
    calc 2 ^ 52
      _ ≤ 2 ^ (n.toNat.log2 + k) := Nat.pow_le_pow_right (by decide) (by omega)
      _ = 2 ^ n.toNat.log2 * 2 ^ k := Nat.pow_add ..
      _ ≤ n.toNat * 2 ^ k := Nat.mul_le_mul_right _ (Nat.log2_self_le (by omega))
  · rw [Nat.shiftLeft_eq, zero_sub, zpow_neg, zpow_natCast]
    push_cast
    rw [mul_assoc, mul_inv_cancel₀ (by positivity), mul_one]

/-- A decimal with a non-negative exponent is made in two roundings. -/
theorem atMost_ofScientific {m k : Nat} (positive : 0 < m) (bound : m < 2 ^ 64) (most : k ≤ 308)
    (small : (m : ℚ) * 10 ^ k * slack ^ 2 < 2 ^ 1024) :
    AtMost (m * 10 ^ k * slack ^ 2) (Float.ofScientific m false k).toModel.unpack := by
  have one : (1 : ℚ) ≤ m := by exact_mod_cast positive
  have power : (1 : ℚ) ≤ 10 ^ k := one_le_pow₀ (by norm_num)
  have slackOne := one_le_slack
  have slackPositive : 0 ≤ slack := zero_le_one.trans slackOne
  unfold Float.ofScientific
  split
  · rename_i short
    have number : m.toUInt64.toNat = m := by
      rw [Nat.toUInt64, UInt64.toNat_ofNat']
      omega
    have whole : AtMost (m * slack) m.toUInt64.toFloat.toModel.unpack := by
      have rounded := atMost_ofUInt64 (n := m.toUInt64) (by omega)
      rw [number] at rounded
      refine atMost_unpack_pack rounded (lt_of_le_of_lt ?_ small)
      calc (m : ℚ) * slack
        _ ≤ m * slack * (10 ^ k * slack) :=
          le_mul_of_one_le_right (by positivity) (one_le_mul_of_one_le_of_one_le power slackOne)
        _ = m * 10 ^ k * slack ^ 2 := by ring
    have product : (m : ℚ) * slack * 10 ^ k * slack = m * 10 ^ k * slack ^ 2 := by ring
    rw [← product] at small ⊢
    exact atMost_mul_float whole (atMost_exactPower _) (one_le_mul_of_one_le_of_one_le one slackOne)
      power small
  · show AtMost _ (Float.Model.pack (UnpackedFloat.ofScientific Format.binary64 m (k : Int))).unpack
    refine atMost_unpack_pack ?_ small
    unfold UnpackedFloat.ofScientific
    rw [dif_neg positive.ne', if_neg (by show ¬ (k : Int) > 2048; omega),
      if_neg (by show ¬ (k : Int) < -(2048 + (m.log2 : Int)); omega), if_pos (by omega)]
    have whole : AtMost (m * 10 ^ k * slack) (roundWithAccuracy Format.binary64
        (.positive * .positive) (m <<< 53 * 10 ^ k) (-53 + 0) .exact) := by
      refine atMost_round (.inl ?_) (one_le_mul_of_one_le_of_one_le one power) (le_of_eq ?_)
      · have : 2 ^ 52 ≤ m <<< 53 := by
          rw [Nat.shiftLeft_eq]
          omega
        exact this.trans (Nat.le_mul_of_pos_right _ (Nat.pow_pos (by decide)))
      · rw [Nat.shiftLeft_eq]
        push_cast
        norm_num
        ring
    refine AtMost.mono whole ?_
    rw [pow_two, ← mul_assoc]
    exact le_mul_of_one_le_right (by positivity) slackOne

theorem atMost_ofNat {n : Nat} (positive : 0 < n) (bound : n < 2 ^ 64) :
    AtMost (n * slack ^ 2) (Float.ofNat n).toModel.unpack := by
  have size : (n : ℚ) * 10 ^ 0 * slack ^ 2 < 2 ^ 1024 := by
    have : (n : ℚ) ≤ 2 ^ 64 := by exact_mod_cast bound.le
    calc (n : ℚ) * 10 ^ 0 * slack ^ 2
      _ ≤ 2 ^ 64 * 10 ^ 0 * slack ^ 2 := by gcongr
      _ < 2 ^ 100 := by norm_num [slack]
      _ < 2 ^ 1024 := pow_lt_pow_right₀ (by norm_num) (by decide)
  have made := atMost_ofScientific positive bound (by decide) size
  rwa [pow_zero, mul_one] at made

namespace Decimal

/-- Three numbers of a product whose first two factors are rounded twice each. -/
theorem scaled_isSome {d k : Nat} (positive : 0 < d) (bound : d < 2 ^ 64) (most : k ≤ maxPower)
    (small : (d : ℚ) * 10 ^ k * slack ^ 5 < 2 ^ 1024) : (scaled d k).isSome = true := by
  have slackOne := one_le_slack
  have slackPositive : 0 ≤ slack := zero_le_one.trans slackOne
  have twice : (1 : ℚ) ≤ slack ^ 2 := one_le_pow₀ slackOne
  have one : (1 : ℚ) ≤ d := by exact_mod_cast positive
  have power : (1 : ℚ) ≤ 10 ^ k := one_le_pow₀ (by norm_num)
  have pow : AtMost (10 ^ k * slack ^ 2) (powerOfTen k).toModel.unpack := by
    have size : ((1 : Nat) : ℚ) * 10 ^ k * slack ^ 2 < 2 ^ 1024 := by
      refine lt_of_le_of_lt ?_ small
      calc ((1 : Nat) : ℚ) * 10 ^ k * slack ^ 2
        _ ≤ d * 10 ^ k * slack ^ 5 := by gcongr <;> omega
    have made := atMost_ofScientific (by decide) (by decide) most size
    rwa [Nat.cast_one, one_mul] at made
  have product : (d : ℚ) * slack ^ 2 * (10 ^ k * slack ^ 2) * slack = d * 10 ^ k * slack ^ 5 := by
    ring
  rw [← product] at small
  have finite := (atMost_mul_float (atMost_ofNat positive bound) pow
    (one_le_mul_of_one_le_of_one_le one twice) (one_le_mul_of_one_le_of_one_le power twice)
    small).isInf
  have inRange : (Float.ofNat d * powerOfTen k).isInf = false := finite
  simp only [scaled, Int.natCast_nonneg, if_true, Int.toNat_natCast, if_pos most, inRange,
    Bool.false_eq_true, if_false, Option.isSome_some]

end Decimal

end ConsoleView
