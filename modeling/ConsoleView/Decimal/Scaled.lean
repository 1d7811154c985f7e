/-
# ConsoleView.Decimal.Scaled -- the double that a decimal is read as

A decimal is read in two roundings.  Its significand becomes the nearest
double; then that double is multiplied or divided by a power of ten, itself the
nearest double to that power.  A result beyond the largest double is refused;
a result too small to tell from zero is zero.
-/

namespace ConsoleView.Decimal

set_option autoImplicit false

/-- The largest power of ten that is a double has this exponent. -/
def maxPower : Nat := 308

/-- The double nearest to `10 ^ e`, for `e` up to `maxPower`. -/
def powerOfTen (e : Nat) : Float := Float.ofScientific 1 false e

/-- Division by `10 ^ e`, in as many steps as `e` has whole `maxPower`s. -/
def scaleDown (x : Float) (e : Nat) : Float :=
  if e ≤ maxPower then x / powerOfTen e
  else if x == 0.0 then x
  else scaleDown (x / powerOfTen maxPower) (e - maxPower)
termination_by e
decreasing_by
  have : 0 < maxPower := by decide
  omega

/-- The double read for `significand * 10 ^ exponent`, or nothing when it is out of range. -/
def scaled (significand : Nat) (exponent : Int) : Option Float :=
  let x := Float.ofNat significand
  if 0 ≤ exponent then
    if exponent.toNat ≤ maxPower then
      let y := x * powerOfTen exponent.toNat
      if y.isInf then none else some y
    else if x == 0.0 then some x
    else none
  else some (scaleDown x (-exponent).toNat)

end ConsoleView.Decimal
