/-
# ConsoleView.Toml.Writer -- strings as they are written to a file

A string is written in the plainest form that shows it without escapes: between
double quotes, between single quotes, or between three of either, which also
keep its lines.  A string that no form can show is written with escapes.
-/
import ConsoleView.NameMap

namespace ConsoleView.Toml

set_option autoImplicit false

def longestRun (c : Char) (cs : List Char) : Nat :=
  (cs.foldl (fun (best, run) d => if d = c then (max best (run + 1), run + 1) else (best, 0))
    (0, 0)).1

/-- Control characters that need an escape in every form. -/
def needsCode (c : Char) : Bool :=
  (c.toNat < 0x20 && c != '\t' && c != '\n') || c.toNat == 0x7F

inductive TextForm where
  | basic
  | literal
  | longBasic
  | longLiteral
deriving DecidableEq, Repr

def formOf (cs : List Char) : TextForm :=
  let coded := cs.any needsCode
  let slashed := cs.contains '\\'
  let lined := cs.contains '\n'
  let doubles := longestRun '"' cs
  let singles := longestRun '\'' cs
  if !coded && !slashed && !lined && doubles == 0 then .basic
  else if !coded && !lined && singles == 0 then .literal
  else if !coded && !slashed && doubles ≤ 2 then .longBasic
  else if !coded && singles ≤ 2 then .longLiteral
  else if lined then .longBasic
  else .basic

/-- A hexadecimal digit with a capital letter. -/
def capitalDigit (n : Nat) : Char :=
  if n < 10 then Nat.digitChar n else Char.ofNat ('A'.toNat + (n - 10))

/-- The escape of a character by its code, which is below 256. -/
def codeEscape (n : Nat) : List Char :=
  ['\\', 'u', '0', '0', capitalDigit (n / 16), capitalDigit (n % 16)]

/-- A character other than a quote between double quotes. -/
def basicChar (long : Bool) (c : Char) : List Char :=
  if c = '\\' then ['\\', '\\']
  else if c.toNat = 8 then ['\\', 'b']
  else if c = '\t' then ['\\', 't']
  else if c = '\n' then if long then ['\n'] else ['\\', 'n']
  else if c.toNat = 12 then ['\\', 'f']
  else if c = '\r' then ['\\', 'r']
  else if needsCode c then codeEscape c.toNat
  else [c]

/-- The characters between double quotes.  The `quotes` before this place are not escaped; between
single double quotes none may stand, between three of them two may. -/
def basicChars (long : Bool) : (quotes : Nat) → List Char → List Char
  | _, [] => []
  | quotes, c :: rest =>
      if c = '"' then
        if long && quotes < 2 then '"' :: basicChars long (quotes + 1) rest
        else '\\' :: '"' :: basicChars long 0 rest
      else basicChar long c ++ basicChars long 0 rest

/-- A string as it is written. -/
def textChars (s : String) : List Char :=
  let cs := s.toList
  let lineFeed : List Char := if cs.contains '\n' then ['\n'] else []
  match formOf cs with
  | .basic => '"' :: basicChars false 0 cs ++ ['"']
  | .literal => '\'' :: cs ++ ['\'']
  | .longBasic => ['"', '"', '"'] ++ lineFeed ++ basicChars true 0 cs ++ ['"', '"', '"']
  | .longLiteral => ['\'', '\'', '\''] ++ lineFeed ++ cs ++ ['\'', '\'', '\'']

end ConsoleView.Toml
