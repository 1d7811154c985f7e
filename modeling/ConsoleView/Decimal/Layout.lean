/-
# ConsoleView.Decimal.Layout -- where the digits of a number are put

A `NumberLayout` records the decisions of one written form of doubles: which of
two equally near decimals is written, which numbers are written without an
exponent, what a whole number ends with, and the names of the values that have
no digits.  `NumberLayout.write` follows them;
nothing else in the library formats a double.
-/
import ConsoleView.Decimal.Shortest

namespace ConsoleView

set_option autoImplicit false

/-- The decisions of a written form. -/
structure NumberLayout where
  /-- Which of two equally near shortest decimals is written. -/
  tie : TieRule
  /-- The exponents of the leading digit, from first to last, for which no exponent is
  written; without bounds no number has one. -/
  positional : Option (Int × Int)
  /-- What follows the last digit of a whole number in positional form. -/
  wholeEnd : List Char
  infinity : String
  notANumber : String

namespace NumberLayout

/-- Whether a number whose leading digit has this exponent is written without one. -/
def isPositional (l : NumberLayout) (lead : Int) : Bool :=
  match l.positional with
  | none => true
  | some (low, high) => low ≤ lead && lead ≤ high

def zeros (n : Nat) : List Char := List.replicate n '0'

/-- Digits around a decimal point, `places` of them behind it. -/
def writePoint (l : NumberLayout) (ds : List Char) (exponent : Int) : List Char :=
  if 0 ≤ exponent then ds ++ zeros exponent.toNat ++ l.wholeEnd
  else
    let places := (-exponent).toNat
    if places < ds.length then
      ds.take (ds.length - places) ++ '.' :: ds.drop (ds.length - places)
    else '0' :: '.' :: zeros (places - ds.length) ++ ds

/-- One digit, the others behind a point, and the exponent with its sign. -/
def writeExponent (ds : List Char) (lead : Int) : List Char :=
  let tail := match ds with
    | [] => []
    | [d] => [d]
    | d :: rest => d :: '.' :: rest
  tail ++ 'e' :: (if lead < 0 then '-' else '+') :: decimalDigits lead.natAbs

def writeDecimal (l : NumberLayout) (d : Decimal) : List Char :=
  let ds := decimalDigits d.digits
  let lead := d.exponent + (ds.length : Int) - 1
  if l.isPositional lead then l.writePoint ds d.exponent else writeExponent ds lead

def write (l : NumberLayout) : Double → List Char
  | .finite negative x => (if negative then ['-'] else []) ++ l.writeDecimal (x.shortest l.tie)
  | .infinite negative => (if negative then ['-'] else []) ++ l.infinity.toList
  | .notANumber => l.notANumber.toList

end NumberLayout

end ConsoleView
