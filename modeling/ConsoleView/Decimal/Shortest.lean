/-
# ConsoleView.Decimal.Shortest -- the fewest digits that read back

The reals that round to a double form an interval around it, whose ends belong
to it exactly when the mantissa is even.  `Dyadic.shortest` looks at one digit,
then two, and so on: on the grid of that many digits it tests the two
neighbours of the value, and the first grid with a neighbour in the interval
wins.  Of two such neighbours the nearer is taken, and of two equally near the
one that the tie rule names.  Seventeen digits always suffice.

All of it is exact arithmetic on natural numbers.
-/
import ConsoleView.Decimal.Basic

namespace ConsoleView

set_option autoImplicit false

/-- Which of two equally near neighbours is taken. -/
inductive TieRule where
  /-- The one whose last digit is even. -/
  | toEven
  /-- The one further from zero. -/
  | away
deriving DecidableEq, Repr

/-- Which of the neighbours `n` and `n + 1` is taken. -/
def TieRule.choose (rule : TieRule) (n : Nat) : Nat :=
  match rule with
  | .toEven => if n % 2 == 0 then n else n + 1
  | .away => n + 1

namespace Dyadic

/-- The value in quarters of its unit: `4 * mantissa`. -/
def quarters (x : Dyadic) : Nat := 4 * x.mantissa

/-- The lower end of the interval, in quarters of the unit. -/
def lowerEnd (x : Dyadic) : Nat := if x.narrow then x.quarters - 1 else x.quarters - 2

/-- The upper end of the interval, in quarters of the unit. -/
def upperEnd (x : Dyadic) : Nat := x.quarters + 2

/-- The power of the base with the exponent `e`, or one when `e` is negative. -/
def powUp (base : Nat) (e : Int) : Nat := Nat.pow base e.toNat

/-- A quarter of the unit, and a step of the decimal grid `10 ^ k`, over a
common denominator. -/
def unitAndStep (x : Dyadic) (k : Int) : Nat × Nat :=
  (powUp 2 (x.exponent - 2) * powUp 10 (-k), powUp 2 (2 - x.exponent) * powUp 10 k)

/-- Whether `n` steps of the grid `10 ^ k` lie in the interval. -/
def admits (x : Dyadic) (k : Int) (n : Nat) : Bool :=
  let (unit, step) := x.unitAndStep k
  let low := x.lowerEnd * unit
  let high := x.upperEnd * unit
  if x.mantissa % 2 == 0 then low ≤ n * step && n * step ≤ high
  else low < n * step && n * step < high

/-- The better of the two neighbours of the value on the grid `10 ^ k`, if one
of them lies in the interval. -/
def onGrid (x : Dyadic) (rule : TieRule) (k : Int) : Option Nat :=
  let (unit, step) := x.unitAndStep k
  let value := x.quarters * unit
  let n := value / step
  match x.admits k n, x.admits k (n + 1) with
  | true, true =>
      let below := value - n * step
      let above := (n + 1) * step - value
      if below < above then some n
      else if above < below then some (n + 1)
      else some (rule.choose n)
  | true, false => some n
  | false, true => some (n + 1)
  | false, false => none

/-- The exponent of the leading decimal digit of a positive value. -/
def leadingExponent (x : Dyadic) : Int :=
  let num := x.mantissa * powUp 2 x.exponent
  let den := powUp 2 (-x.exponent)
  if den ≤ num then ((decimalDigits (num / den)).length : Int) - 1
  else
    let places := (decimalDigits (den / num)).length
    if den = num * Nat.pow 10 (places - 1) then 1 - (places : Int) else -(places : Int)

end Dyadic

/-- The same number with no trailing zero among its digits; `fuel` is the
number of zeros looked for. -/
def Decimal.stripZeros (fuel : Nat) (d : Decimal) : Decimal :=
  match fuel with
  | 0 => d
  | fuel + 1 =>
      if d.digits % 10 == 0 then Decimal.stripZeros fuel ⟨d.digits / 10, d.exponent + 1⟩ else d

/-- The shortest decimal that reads back as `x`; zero has the digit zero. -/
def Dyadic.shortest (x : Dyadic) (rule : TieRule) : Decimal :=
  if x.mantissa = 0 then ⟨0, 0⟩
  else
    let lead := x.leadingExponent
    let hit := (List.range 17).findSome? fun (i : Nat) =>
      (x.onGrid rule (lead - i)).map fun n => (⟨n, lead - i⟩ : Decimal)
    (hit.getD ⟨0, 0⟩).stripZeros 17

example : Dyadic.shortest ⟨1, -1074, false⟩ .toEven = ⟨5, -324⟩ := by decide +kernel

/-- The double 1125899906842624.25 is a tie. -/
example : Dyadic.shortest ⟨4503599627370497, -2, false⟩ .toEven = ⟨11258999068426242, -1⟩ ∧
    Dyadic.shortest ⟨4503599627370497, -2, false⟩ .away = ⟨11258999068426243, -1⟩ := by
  decide +kernel

end ConsoleView
