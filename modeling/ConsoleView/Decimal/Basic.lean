/-
# ConsoleView.Decimal.Basic -- decimals and finite doubles as exact numbers

A `Decimal` is a whole number of a power of ten, a `Dyadic` a whole number of a
power of two.  Every finite double is a sign and a `Dyadic`; `Dyadic.ofBits`
reads it off the sixty-four bits.
-/

namespace ConsoleView

set_option autoImplicit false

/-- The number `digits * 10 ^ exponent`. -/
structure Decimal where
  digits : Nat
  exponent : Int
deriving DecidableEq, Repr

/-- The number `mantissa * 2 ^ exponent`, with the width of the gap below it.
`narrow` says that the next smaller double is only half as far away as the next
larger one, which is so at the start of a binade. -/
structure Dyadic where
  mantissa : Nat
  exponent : Int
  narrow : Bool
deriving DecidableEq, Repr

/-- What the sixty-four bits of a double stand for. -/
inductive Double where
  | finite (negative : Bool) (value : Dyadic)
  | infinite (negative : Bool)
  | notANumber
deriving DecidableEq, Repr

/-- The bit that stands before the fifty-two bits of the fraction. -/
def hiddenBit : Nat := 4503599627370496

/-- Sign, eleven bits of exponent, fifty-two bits of fraction.  The smallest
exponent has no hidden leading bit and shares its scale with the next one. -/
def Double.ofBits (bits : UInt64) : Double :=
  let n := bits.toNat
  let negative := n >>> 63 == 1
  let scale : Nat := (n >>> 52) % 2048
  let fraction : Nat := n % hiddenBit
  if scale == 2047 then
    if fraction == 0 then .infinite negative else .notANumber
  else if scale == 0 then .finite negative ⟨fraction, -1074, false⟩
  else .finite negative ⟨fraction + hiddenBit, (scale : Int) - 1075, fraction == 0 && scale != 1⟩

def Double.ofFloat (x : Float) : Double := Double.ofBits x.toBits

def decimalDigits (n : Nat) : List Char := Nat.toDigits 10 n

example : Double.ofFloat 1.0 = .finite false ⟨hiddenBit, -52, true⟩ := by decide
example : Double.ofFloat (-0.0) = .finite true ⟨0, -1074, false⟩ := by decide

end ConsoleView
