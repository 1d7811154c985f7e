/-
# ConsoleView.Json.Printer -- the text of a JSON value

The text has no blanks.  Strings escape the quote, the backslash and the
characters below the space, and nothing else; so no line break can stand in the
text of a value.  Doubles are written with the fewest digits that read back.
-/
import ConsoleView.Json.Basic
import ConsoleView.Decimal.Layout

namespace ConsoleView.Json

set_option autoImplicit false

/-- Doubles in JSON keep a point or an exponent, and a leading digit of exponent -5 to 15 is
written without one.  There is no text for the values without digits; they become `null`. -/
def numberLayout : NumberLayout where
  tie := .toEven
  positional := some (-5, 15)
  wholeEnd := ['.', '0']
  infinity := "null"
  notANumber := "null"

def realChars (x : Float) : List Char :=
  match Double.ofFloat x with
  | .finite negative value => numberLayout.write (.finite negative value)
  | _ => "null".toList

def intChars (n : Int) : List Char :=
  (if n < 0 then ['-'] else []) ++ decimalDigits n.natAbs

/-- The last two digits of a four-digit escape. -/
def hexPair (n : Nat) : List Char :=
  [Nat.digitChar (n / 16), Nat.digitChar (n % 16)]

def escapeChar (c : Char) : List Char :=
  if c = '"' then ['\\', '"']
  else if c = '\\' then ['\\', '\\']
  else if 0x20 ≤ c.toNat then [c]
  else if c = '\n' then ['\\', 'n']
  else if c = '\r' then ['\\', 'r']
  else if c = '\t' then ['\\', 't']
  else if c.toNat = 8 then ['\\', 'b']
  else if c.toNat = 12 then ['\\', 'f']
  else ['\\', 'u', '0', '0'] ++ hexPair c.toNat

def stringChars (s : String) : List Char :=
  '"' :: s.toList.flatMap escapeChar ++ ['"']

mutual

def chars : Json → List Char
  | .null => "null".toList
  | .bool true => "true".toList
  | .bool false => "false".toList
  | .int n => intChars n
  | .real x => realChars x
  | .string s => stringChars s
  | .array items => '[' :: itemChars items ++ [']']
  | .object fields => '\x7b' :: fieldChars fields ++ ['\x7d']

def itemChars : List Json → List Char
  | [] => []
  | [x] => chars x
  | x :: y :: rest => chars x ++ ',' :: itemChars (y :: rest)

def fieldChars : List (String × Json) → List Char
  | [] => []
  | [(k, x)] => stringChars k ++ ':' :: chars x
  | (k, x) :: y :: rest => stringChars k ++ ':' :: chars x ++ ',' :: fieldChars (y :: rest)

end

def print (j : Json) : String := String.ofList (chars j)

/-- No escape leaves a character below the space. -/
theorem le_toNat_of_mem_escapeChar {c x : Char} (mem : x ∈ escapeChar c) : 0x20 ≤ x.toNat := by
  have digit : ∀ n < 16, 0x20 ≤ (Nat.digitChar n).toNat := by decide
  unfold escapeChar at mem
  repeat' split at mem
  all_goals simp only [hexPair, List.cons_append, List.nil_append, List.mem_cons, List.not_mem_nil,
    or_false] at mem
  all_goals first
    | (rcases mem with rfl | rfl <;> decide)
    | (subst mem; assumption)
    | (have small : c.toNat < 32 := by omega
       rcases mem with rfl | rfl | rfl | rfl | rfl | rfl <;>
         first | decide | exact digit _ (by omega))

end ConsoleView.Json
