/-
# ConsoleView.Toml.Text -- the four forms of strings

A basic string stands between double quotes and has escapes; a literal string
stands between single quotes and has none.  With three quotes on both sides a
string may go over lines: a line end right after the opening quotes does not
count, one or two quotes may stand before the closing ones, and in a basic
string a backslash at the end of a line takes away all blanks and line ends
after it.
-/
import ConsoleView.Toml.Basic

namespace ConsoleView.Toml

set_option autoImplicit false

/-! ## Characters and escapes -/

/-- The characters that stand for themselves in strings, apart from quotes and backslashes. -/
def isPlain (c : Char) : Bool := c = '\t' || (0x20 ≤ c.toNat && c.toNat ≠ 0x7F)

def hexDigit? (c : Char) : Option Nat :=
  if c.isDigit then some (c.toNat - '0'.toNat)
  else if 'a' ≤ c && c ≤ 'f' then some (c.toNat - 'a'.toNat + 10)
  else if 'A' ≤ c && c ≤ 'F' then some (c.toNat - 'A'.toNat + 10)
  else none

def hexNumber : (digits : Nat) → (sofar : Nat) → Reader Nat
  | 0, n, cs => some (n, cs)
  | _ + 1, _, [] => none
  | digits + 1, n, c :: rest =>
      match hexDigit? c with
      | some d => hexNumber digits (n * 16 + d) rest
      | none => none

/-- The character with the code given by so many hexadecimal digits. -/
def codeChar (digits : Nat) : Reader Char := fun cs =>
  match hexNumber digits 0 cs with
  | some (n, rest) => if n.isValidChar then some (Char.ofNat n, rest) else none
  | none => none

def escape : Reader Char
  | 'b' :: rest => some ('\x08', rest)
  | 'f' :: rest => some ('\x0C', rest)
  | 'n' :: rest => some ('\n', rest)
  | 'r' :: rest => some ('\r', rest)
  | 't' :: rest => some ('\t', rest)
  | '"' :: rest => some ('"', rest)
  | '\\' :: rest => some ('\\', rest)
  | 'u' :: rest => codeChar 4 rest
  | 'U' :: rest => codeChar 8 rest
  | _ => none

/-! ## Strings within a line -/

/-- A basic string after its opening quote. -/
def basicRest : (room : Nat) → (taken : List Char) → Reader String
  | 0, _, _ => none
  | _ + 1, _, [] => none
  | _ + 1, taken, '"' :: rest => some (String.ofList taken.reverse, rest)
  | room + 1, taken, '\\' :: rest =>
      match escape rest with
      | some (c, rest) => basicRest room (c :: taken) rest
      | none => none
  | room + 1, taken, c :: rest => if isPlain c then basicRest room (c :: taken) rest else none

def literalRest : (taken : List Char) → Reader String
  | _, [] => none
  | taken, '\'' :: rest => some (String.ofList taken.reverse, rest)
  | taken, c :: rest => if isPlain c then literalRest (c :: taken) rest else none

/-! ## Strings over lines -/

/-- The text after a line end that does not count. -/
def skipFirstLineFeed (cs : List Char) : List Char := (lineFeed? cs).getD cs

/-- How many of the quotes at the start of a text belong to the string, and whether it ends with
them.  Less than three quotes do not end it; of three to five the last three do. -/
def quoteRun (quote : Char) (cs : List Char) : Nat × Bool :=
  let run := (cs.takeWhile (· == quote)).length
  if run < 3 then (run, false) else (min (run - 3) 2, true)

/-- A string over lines after its opening quotes.  `escapes` tells a basic string from a literal
one. -/
def longRest (escapes : Bool) (quote : Char) : (room : Nat) → (taken : List Char) → Reader String
  | 0, _, _ => none
  | _ + 1, _, [] => none
  | room + 1, taken, c :: rest =>
      if c = quote then
        let (count, ends) := quoteRun quote (c :: rest)
        let taken := List.replicate count quote ++ taken
        if ends then some (String.ofList taken.reverse, (c :: rest).drop (count + 3))
        else longRest escapes quote room taken ((c :: rest).drop count)
      else if c = '\\' && escapes then
        match lineFeed? (skipBlanks rest) with
        | some rest => longRest escapes quote room taken (skipOpenLines rest)
        | none =>
            match escape rest with
            | some (c, rest) => longRest escapes quote room (c :: taken) rest
            | none => none
      else
        match lineFeed? (c :: rest) with
        | some rest => longRest escapes quote room ('\n' :: taken) rest
        | none => if isPlain c then longRest escapes quote room (c :: taken) rest else none

/-! ## Strings -/

/-- A string in any of its forms. -/
def text (room : Nat) : Reader String
  | '"' :: '"' :: '"' :: rest => longRest true '"' room [] (skipFirstLineFeed rest)
  | '"' :: rest => basicRest room [] rest
  | '\'' :: '\'' :: '\'' :: rest => longRest false '\'' room [] (skipFirstLineFeed rest)
  | '\'' :: rest => literalRest [] rest
  | _ => none

/-- A string that stays within its line. -/
def lineText (room : Nat) : Reader String
  | '"' :: rest => basicRest room [] rest
  | '\'' :: rest => literalRest [] rest
  | _ => none

end ConsoleView.Toml
