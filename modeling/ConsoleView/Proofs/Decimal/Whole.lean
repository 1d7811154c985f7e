/-
# ConsoleView.Proofs.Decimal.Whole -- whole numbers of sixty-four bits as doubles

The double of a whole number that sixty-four bits hold is finite
(`isFinite_ofInt`).  A double is made by rounding a mantissa to fifty-three bits,
which makes the exponent larger by no more than the bits of the mantissa
(`exponentAtMost_round`); so the exponents of whole numbers stay far below the one
that stands for infinity.
-/
import ConsoleView.Decimal.Basic
import Mathlib.Algebra.Order.Ring.Int
import Mathlib.Tactic.NormNum

namespace ConsoleView

set_option autoImplicit false

open Float.Model Float.Model.UnpackedFloat

/-! ## Exponents -/

/-- The number is a zero, or its exponent is at most `b`. -/
inductive ExponentAtMost (b : Int) : UnpackedFloat → Prop where
  | zero (s : Sign) : ExponentAtMost b (.zero s)
  | finite (s : Sign) (m : Nat) (e : Int) (positive : 0 < m) (bound : e ≤ b) :
      ExponentAtMost b (.finite s m e positive)

/-- What both branches of a test have, the test has. -/
theorem of_dite {α : Type} {p : α → Prop} {c : Prop} [Decidable c] {t : c → α} {e : ¬c → α}
    (yes : ∀ h, p (t h)) (no : ∀ h, p (e h)) : p (dite c t e) := by
  by_cases h : c
  · rw [dif_pos h]
    exact yes h
  · rw [dif_neg h]
    exact no h

theorem mantissa_shiftRight (em : ExtendedMantissa) (n : Nat) :
    (em >>> n).mantissa ≤ em.mantissa := by
  show (n.repeat ExtendedMantissa.shiftRightOne em).mantissa ≤ em.mantissa
  induction n with
  | zero => exact Nat.le_refl _
  | succ n ih => exact (Nat.div_le_self _ 2).trans ih

theorem roundedMantissa_le (em : ExtendedMantissa) : em.roundedMantissa ≤ em.mantissa + 1 := by
  obtain ⟨m, round, sticky⟩ := em
  cases round <;> cases sticky <;>
    simp only [ExtendedMantissa.roundedMantissa, ExtendedMantissa.accuracy,
      Accuracy.roundToNearestEven] <;> omega

theorem log2_le {m k : Nat} (bits : m < 2 ^ k) : m.log2 ≤ k := by
  by_cases zero : m = 0
  · simp [zero]
  · exact ((Nat.log2_lt zero).2 bits).le

/-- A double has fifty-three bits, or fewer at the least exponent. -/
theorem targetExponent_binary64 (m : Nat) (e : Int) :
    Format.binary64.targetExponent (totalExponent m e) = max (m.log2 + e - 52) (-1074) := by
  show max ((m.log2 : Int) + 1 + e - 53) (-1074) = _
  omega

/-- Shifting to fifty-three bits keeps the mantissa's bound and raises the exponent by at most
the bits of the mantissa. -/
theorem shiftToTargetExponent_le {m : Nat} {e b : Int} {k : Nat} (bits : m < 2 ^ k)
    (least : -1074 ≤ b) (bound : e ≤ b) :
    (shiftToTargetExponent Format.binary64 m e .exact).1.mantissa ≤ m ∧
      (shiftToTargetExponent Format.binary64 m e .exact).2 ≤ b + k := by
  have length := log2_le bits
  constructor
  · exact mantissa_shiftRight _ _
  · show e + ((Format.binary64.targetExponent (totalExponent m e) - e).toNat : Int) ≤ b + k
    rw [targetExponent_binary64]
    omega

/-- Rounding raises the exponent by at most twice the bits of the mantissa, and one. -/
theorem exponentAtMost_round {s : Sign} {m : Nat} {e b : Int} {k : Nat} (bits : m < 2 ^ k)
    (least : -1074 ≤ b) (bound : e ≤ b) :
    ExponentAtMost (b + 2 * k + 1) (roundWithAccuracy Format.binary64 s m e .exact) := by
  obtain ⟨shorter, first⟩ := shiftToTargetExponent_le bits least bound
  unfold roundWithAccuracy
  generalize shiftToTargetExponent Format.binary64 m e .exact = shifted at shorter first ⊢
  have rounded : shifted.1.roundedMantissa < 2 ^ (k + 1) := by
    have := roundedMantissa_le shifted.1
    rw [pow_succ]
    omega
  have second := (shiftToTargetExponent_le rounded (by omega : -1074 ≤ b + k) first).2
  dsimp only
  exact of_dite (fun _ => .zero s) fun _ => .finite _ _ _ _ (by omega)

/-! ## Bits -/

theorem exponentAtMost_neg {b : Int} {u : UnpackedFloat} (bound : ExponentAtMost b u) :
    ExponentAtMost b u.neg := by
  cases bound with
  | zero s => exact .zero _
  | finite s m e positive bound => exact .finite _ _ _ _ bound

/-- What the exponent field and the fraction of a double's bits make of them: the greatest number of
the field stands for no number, and the least one has no hidden bit. -/
theorem of_unpack {p : UnpackedFloat → Prop} {bits : BitVec 64}
    (special : (@unpackExponent Format.binary64 bits).toNat = 2047 →
      (∀ s, p (.infinity s)) ∧ p .notANumber)
    (zero : ∀ s, p (.zero s))
    (least : ∀ s m e positive, (@unpackExponent Format.binary64 bits).toNat = 0 →
      m = (@unpackMantissa Format.binary64 bits).toNat → e = -1074 → p (.finite s m e positive))
    (normal : ∀ s m e positive, (@unpackExponent Format.binary64 bits).toNat ≠ 0 →
      m = 2 ^ 52 + (@unpackMantissa Format.binary64 bits).toNat →
      e = ((@unpackExponent Format.binary64 bits).toNat : Int) - 1075 →
      p (.finite s m e positive)) :
    p (UnpackedFloat.unpack Format.binary64 bits) := by
  unfold UnpackedFloat.unpack
  refine iteInduction (fun ones => ?_) fun _ => iteInduction (fun none => ?_) fun some => ?_
  · obtain ⟨infinity, notANumber⟩ := special (congrArg BitVec.toNat ones)
    exact iteInduction (fun _ => infinity _) fun _ => notANumber
  · have number := congrArg BitVec.toNat none
    refine of_dite (fun _ => zero _) fun _ => least _ _ _ _ number rfl ?_
    rw [number]
    rfl
  · refine normal _ _ _ _ (fun number => some (BitVec.eq_of_toNat_eq number)) ?_ rfl
    rw [BitVec.toNat_append, Nat.shiftLeft_eq, Nat.mul_comm,
      ← Nat.two_pow_add_eq_or_of_lt (BitVec.isLt _)]
    rfl

/-- What the bits of a double stand for has a mantissa of fifty-three bits. -/
theorem mantissa_unpack (x : Float.Model) {s : Sign} {m : Nat} {e : Int} {positive : 0 < m}
    (unpacked : x.unpack = .finite s m e positive) : m < 2 ^ 53 := by
  have short : ∀ m e positive, x.unpack = .finite s m e positive → m < 2 ^ 53 := by
    refine of_unpack (p := fun u => ∀ m e positive, u = .finite s m e positive → m < 2 ^ 53)
      (fun _ => ⟨fun _ _ _ _ => nofun, fun _ _ _ => nofun⟩) (fun _ _ _ _ => nofun) ?_ ?_
    · rintro _ m _ _ _ rfl _ _ _ _ ⟨⟩
      exact (BitVec.isLt _).trans (by decide)
    · rintro _ m _ _ _ rfl _ _ _ _ ⟨⟩
      exact Nat.add_lt_add_left (BitVec.isLt _) (2 ^ 52)
  exact short m e positive unpacked

/-- The exponent that bits stand for is the number in their exponent field, less the bias; the
least one has two numbers. -/
theorem exponentAtMost_unpack {b : Int} {bits : BitVec 64} (least : -1074 ≤ b)
    (finite : (@unpackExponent Format.binary64 bits).toNat ≠ 2047)
    (bound : ((@unpackExponent Format.binary64 bits).toNat : Int) ≤ b + 1075) :
    ExponentAtMost b (UnpackedFloat.unpack Format.binary64 bits) :=
  of_unpack (fun infinite => absurd infinite finite) .zero
    (fun s m e positive _ _ lowest => .finite s m e positive (by omega))
    fun s m e positive _ _ biased => .finite s m e positive (by omega)

/-- A bound of the exponent stays when a double is packed into bits. -/
theorem exponentAtMost_unpack_pack {b : Int} (least : -1074 ≤ b) (most : b ≤ 970)
    {u : UnpackedFloat} (bound : ExponentAtMost b u) :
    ExponentAtMost b (Float.Model.pack u).unpack := by
  have field : ∀ (s : Sign) (n : Nat) (m : BitVec 52), (n : Int) ≤ b + 1075 →
      ExponentAtMost b (UnpackedFloat.unpack Format.binary64
        (packComponents Format.binary64 s (BitVec.ofNat 11 n) m)) := by
    intro s n m small
    have number : (BitVec.ofNat 11 n).toNat = n := by
      rw [BitVec.toNat_ofNat]
      omega
    apply exponentAtMost_unpack least <;> rw [unpackExponent_packComponents, number] <;> omega
  cases bound with
  | zero s => exact field s 0 0 (by omega)
  | finite s m e positive small =>
      show ExponentAtMost b (UnpackedFloat.unpack Format.binary64 (UnpackedFloat.pack _ _))
      unfold UnpackedFloat.pack
      dsimp only
      rw [if_neg (by show ¬ 2048 ≤ (e + 1023 + 52).toNat + 1; omega)]
      split
      · exact field s _ _ (by show ((e + 1023 + 52).toNat : Int) ≤ _; omega)
      · exact field s 0 _ (by omega)

/-! ## Finite doubles -/

/-- The exponent field of a double's bits. -/
theorem toNat_unpackExponent (bits : UInt64) :
    (@unpackExponent Format.binary64 bits.toBitVec).toNat =
      (bits.toNat >>> 52) % 2048 := by
  simp [unpackExponent, BitVec.extractLsb]

/-- A double is finite if its bits stand for a number. -/
theorem finite_ofFloat {x : Float} (finite : x.isFinite = true) :
    ∃ negative value, Double.ofFloat x = .finite negative value := by
  have field : (x.toBits.toNat >>> 52) % 2048 ≠ 2047 := by
    intro infinite
    rw [← toNat_unpackExponent] at infinite
    have ones : @unpackExponent Format.binary64 x.toBits.toBitVec = -1#11 :=
      BitVec.eq_of_toNat_eq infinite
    have unpacked : x.isFinite =
      (UnpackedFloat.unpack Format.binary64 x.toBits.toBitVec).isFinite := rfl
    rw [unpacked] at finite
    unfold UnpackedFloat.unpack at finite
    dsimp only at finite
    rw [if_pos ones] at finite
    split at finite <;> cases finite
  unfold Double.ofFloat Double.ofBits
  dsimp only
  rw [if_neg (by simpa using field)]
  split
  · exact ⟨_, _, rfl⟩
  · exact ⟨_, _, rfl⟩

theorem isFinite_of_exponentAtMost {b : Int} {u : UnpackedFloat} (bound : ExponentAtMost b u) :
    u.isFinite = true := by
  cases bound <;> rfl

/-! ## Whole numbers -/

theorem ExponentAtMost.mono {b c : Int} {u : UnpackedFloat} (bound : ExponentAtMost b u)
    (le : b ≤ c) : ExponentAtMost c u := by
  cases bound with
  | zero s => exact .zero s
  | finite s m e positive bound => exact .finite s m e positive (bound.trans le)

theorem shiftLeft_lt {m j : Nat} (bits : m < 2 ^ j) (k : Nat) : m <<< k < 2 ^ (j + k) := by
  rw [Nat.shiftLeft_eq, Nat.pow_add]
  exact Nat.mul_lt_mul_of_pos_right bits (Nat.two_pow_pos k)

/-- A product of finite doubles has the sum of their exponents before it is rounded. -/
theorem exponentAtMost_mul {s t : Sign} {m n : Nat} {e f b : Int} {hm : 0 < m} {hn : 0 < n}
    {j k : Nat} (bitsM : m < 2 ^ j) (bitsN : n < 2 ^ k) (least : -1074 ≤ b) (bound : e + f ≤ b) :
    ExponentAtMost (b + 2 * (j + k) + 1)
      (UnpackedFloat.mul Format.binary64 (.finite s m e hm) (.finite t n f hn)) := by
  have bits : m * n < 2 ^ (j + k) := by
    rw [Nat.pow_add]
    exact Nat.mul_lt_mul'' bitsM bitsN
  rw [← Int.natCast_add]
  exact exponentAtMost_round bits least bound

theorem exponentAtMost_mul_unpack {x : Float.Model} {t : Sign} {n : Nat} {f b : Int}
    {hn : 0 < n} {k : Nat} (unpacked : ExponentAtMost b x.unpack) (bits : n < 2 ^ k)
    (least : -1074 ≤ b + f) :
    ExponentAtMost (b + f + 2 * (53 + k) + 1)
      (UnpackedFloat.mul Format.binary64 x.unpack (.finite t n f hn)) := by
  have mantissa := @mantissa_unpack x
  generalize x.unpack = u at unpacked mantissa ⊢
  cases unpacked with
  | zero s => exact .zero _
  | finite s m e positive bound =>
      exact exponentAtMost_mul (mantissa rfl) bits least (by omega)

/-- A natural number is first shifted to at least fifty-three bits, then rounded. -/
theorem exponentAtMost_ofUInt64 (n : UInt64) :
    ExponentAtMost 300 (UnpackedFloat.ofUInt64 Format.binary64 n) := by
  show ExponentAtMost 300 (UnpackedFloat.normalize Format.binary64 (n.toNat : Int) 0 .positive)
  unfold UnpackedFloat.normalize
  split
  · rename_i negative
    rw [Int.compare_eq_lt] at negative
    omega
  · exact .zero _
  · let target := Format.binary64.targetExponent (totalExponent n.toNat 0)
    have most : (0 - target).toNat ≤ 52 := by
      simp only [target, targetExponent_binary64]
      omega
    have bits : n.toNat <<< (0 - target).toNat < 2 ^ (64 + 52) :=
      (shiftLeft_lt n.toNat_lt _).trans_le (Nat.pow_le_pow_right (by decide) (by omega))
    exact (exponentAtMost_round (b := 0) bits (by decide) (by omega)).mono (by decide)

/-- The double of a natural number below `2 ^ 64` has a small exponent. -/
theorem exponentAtMost_ofNat {n : Nat} (bound : n < 2 ^ 64) :
    ExponentAtMost 900 (Float.ofNat n).toModel.unpack := by
  show ExponentAtMost 900 (Float.ofScientific n false 0).toModel.unpack
  unfold Float.ofScientific
  split
  · show ExponentAtMost 900 (Float.Model.pack (UnpackedFloat.mul Format.binary64
      (Float.Model.pack (UnpackedFloat.ofUInt64 Format.binary64 n.toUInt64)).unpack
      (Float.ofBits 4607182418800017408).toModel.unpack)).unpack
    have one : (Float.ofBits 4607182418800017408).toModel.unpack =
      .finite .positive (2 ^ 52) (-52) (by decide) := rfl
    rw [one]
    have whole := exponentAtMost_unpack_pack (by decide) (by decide)
      (exponentAtMost_ofUInt64 n.toUInt64)
    refine exponentAtMost_unpack_pack (by decide) (by decide) ?_
    exact (exponentAtMost_mul_unpack (k := 53) whole (by decide) (by decide)).mono (by decide)
  · show ExponentAtMost 900 (Float.Model.pack
      (UnpackedFloat.ofScientific Format.binary64 n 0)).unpack
    refine exponentAtMost_unpack_pack (by decide) (by decide) ?_
    unfold UnpackedFloat.ofScientific
    refine of_dite (fun _ => .zero _) fun _ => ?_
    rw [if_neg (by decide), if_neg (by show ¬ (0 : Int) < -(2048 + (n.log2 : Int)); omega),
      if_pos (by decide)]
    exact (exponentAtMost_mul (b := 0) (k := 1) (shiftLeft_lt bound _) (by decide) (by decide)
      (by decide)).mono (by decide)

/-- **A whole number of sixty-four bits is a finite double.** -/
theorem isFinite_ofInt {n : Int} (low : -2 ^ 63 ≤ n) (high : n < 2 ^ 64) :
    (Float.ofInt n).isFinite = true := by
  cases n with
  | ofNat n =>
      have small : (n : Int) < 2 ^ 64 := high
      exact isFinite_of_exponentAtMost (exponentAtMost_ofNat (by exact_mod_cast small))
  | negSucc n =>
      have small : n + 1 < 2 ^ 64 := by
        norm_num at low ⊢
        omega
      exact isFinite_of_exponentAtMost <| exponentAtMost_unpack_pack (by decide) (by decide) <|
        exponentAtMost_neg (exponentAtMost_ofNat small)

end ConsoleView
