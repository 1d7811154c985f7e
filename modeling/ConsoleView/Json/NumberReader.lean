/-
# ConsoleView.Json.NumberReader -- the number at the start of a text

A number without a point or an exponent is an integer as long as sixty-four
bits hold it; any other number is a double.  The digits of a number are
collected into a significand below `2 ^ 64`.  Digits of the whole part that do
not fit count into the exponent; digits of the fraction that do not fit are
dropped, together with all that follow.
-/
import ConsoleView.Json.Basic
import ConsoleView.Json.Fault
import ConsoleView.Decimal.Scaled

namespace ConsoleView.Json

set_option autoImplicit false

def digit? (c : Char) : Option Nat := if c.isDigit then some (c.toNat - '0'.toNat) else none

def significandBound : Nat := 18446744073709551616

/-- The greatest exponent that is read digit by digit. -/
def maxExponent : Nat := 2147483647

/-- The text after its leading digits. -/
def skipDigits (cs : List Char) : List Char := cs.dropWhile Char.isDigit

/-- Leading digits collected onto a significand while it stays below the bound: the
significand, the number of digits taken, and the rest of the text. -/
def takeDigits (significand : Nat) (count : Nat) : List Char → Nat × Nat × List Char
  | [] => (significand, count, [])
  | c :: rest =>
      match digit? c with
      | none => (significand, count, c :: rest)
      | some d =>
          if significand * 10 + d < significandBound then
            takeDigits (significand * 10 + d) (count + 1) rest
          else (significand, count, c :: rest)

/-- What has been read of a number: its sign, and its size as a decimal. -/
structure Numeral where
  negative : Bool
  significand : Nat
  exponent : Int
deriving DecidableEq, Repr

def signed (negative : Bool) (x : Float) : Float := if negative then -x else x

/-- The number is complete before `rest`. -/
def finish (p : Numeral) (rest : List Char) : Except Fault (Json × List Char) :=
  match Decimal.scaled p.significand p.exponent with
  | some x => .ok (.real (signed p.negative x), rest)
  | none => .error (.before .numberOutOfRange rest)

/-- The number times, or divided by, `10 ^ e`. -/
def Numeral.shift (p : Numeral) (up : Bool) (e : Nat) : Numeral :=
  { p with exponent := if up then p.exponent + e else p.exponent - e }

/-- The digits of an exponent onto `e`.  An exponent above `maxExponent` makes zero zero, and
takes a number down to zero or out of range. -/
def exponentDigits (p : Numeral) (up : Bool) (e : Nat) : List Char → Except Fault (Json × List Char)
  | [] => finish (p.shift up e) []
  | c :: rest =>
      match digit? c with
      | none => finish (p.shift up e) (c :: rest)
      | some d =>
          if e * 10 + d ≤ maxExponent then exponentDigits p up (e * 10 + d) rest
          else if p.significand ≠ 0 ∧ up then .error (.before .numberOutOfRange rest)
          else .ok (.real (signed p.negative 0.0), skipDigits rest)

/-- The exponent after its sign; it has at least one digit. -/
def exponentStart (p : Numeral) (up : Bool) : List Char → Except Fault (Json × List Char)
  | [] => .error (.before .endInValue [])
  | c :: rest =>
      match digit? c with
      | some d => exponentDigits p up d rest
      | none => .error (.inside .invalidNumber 1 (c :: rest))

def exponentPart (p : Numeral) : List Char → Except Fault (Json × List Char)
  | '+' :: rest => exponentStart p true rest
  | '-' :: rest => exponentStart p false rest
  | rest => exponentStart p true rest

def exponent? (p : Numeral) : List Char → Except Fault (Json × List Char)
  | 'e' :: rest => exponentPart p rest
  | 'E' :: rest => exponentPart p rest
  | rest => finish p rest

def fractionPart (p : Numeral) (cs : List Char) : Except Fault (Json × List Char) :=
  let (significand, count, rest) := takeDigits p.significand 0 cs
  let read : Numeral := { p with significand, exponent := p.exponent - count }
  match rest with
  | [] => if count = 0 then .error (.before .endInValue []) else finish read []
  | c :: _ =>
      if c.isDigit then exponent? read (skipDigits rest)
      else if count = 0 then .error (.inside .invalidNumber 1 rest)
      else exponent? read rest

/-- The size of the least integer of sixty-four bits with a sign. -/
def maxNegative : Nat := 9223372036854775808

/-- The integer `significand` with its sign; a negative zero and what is below the signed
sixty-four bits are doubles. -/
def integer (negative : Bool) (significand : Nat) : Json :=
  if negative then
    if significand = 0 ∨ maxNegative < significand then .real (-(Float.ofNat significand))
    else .int (-(significand : Int))
  else .int significand

/-- The text after the digits of the whole part. -/
def afterWhole (negative : Bool) (significand : Nat) : List Char → Except Fault (Json × List Char)
  | '.' :: rest => fractionPart ⟨negative, significand, 0⟩ rest
  | 'e' :: rest => exponentPart ⟨negative, significand, 0⟩ rest
  | 'E' :: rest => exponentPart ⟨negative, significand, 0⟩ rest
  | rest => .ok (integer negative significand, rest)

/-- The text after a whole part of which `count` digits did not fit. -/
def afterLongWhole (p : Numeral) : List Char → Except Fault (Json × List Char)
  | '.' :: rest => fractionPart p rest
  | rest => exponent? p rest

def number (negative : Bool) : List Char → Except Fault (Json × List Char)
  | [] => .error (.before .endInValue [])
  | c :: rest =>
      if c = '0' then
        match rest with
        | d :: _ =>
            if d.isDigit then .error (.inside .invalidNumber 1 rest)
            else afterWhole negative 0 rest
        | [] => afterWhole negative 0 []
      else if c.isDigit then
        let (significand, _, after) := takeDigits 0 0 (c :: rest)
        match after with
        | d :: _ =>
            if d.isDigit then
              let beyond := skipDigits after
              afterLongWhole ⟨negative, significand, (after.length - beyond.length : Nat)⟩ beyond
            else afterWhole negative significand after
        | [] => afterWhole negative significand []
      else .error (.inside .invalidNumber 1 (c :: rest))

end ConsoleView.Json
