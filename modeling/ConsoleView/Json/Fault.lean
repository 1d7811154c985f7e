/-
# ConsoleView.Json.Fault -- why a text is not JSON, and where

While a text is read, a fault records its cause and how many bytes of the text
come after the place it is reported at.  Only a refused text pays for finding
the line and the column of that place.  Columns are counted in bytes.
-/
import ConsoleView.Decimal.Basic

namespace ConsoleView.Json

set_option autoImplicit false

inductive Cause where
  | endInList
  | endInObject
  | endInString
  | endInValue
  | expectedColon
  | expectedListEnd
  | expectedObjectEnd
  | expectedWord
  | expectedValue
  | invalidEscape
  | invalidNumber
  | numberOutOfRange
  | controlCharacter
  | keyNotString
  | loneSurrogate
  | endOfHexEscape
  | trailingComma
  | trailingCharacters
  | tooDeep
deriving DecidableEq, Repr

def Cause.text : Cause → String
  | .endInList => "EOF while parsing a list"
  | .endInObject => "EOF while parsing an object"
  | .endInString => "EOF while parsing a string"
  | .endInValue => "EOF while parsing a value"
  | .expectedColon => "expected `:`"
  | .expectedListEnd => "expected `,` or `]`"
  | .expectedObjectEnd => "expected `,` or `\x7d`"
  | .expectedWord => "expected ident"
  | .expectedValue => "expected value"
  | .invalidEscape => "invalid escape"
  | .invalidNumber => "invalid number"
  | .numberOutOfRange => "number out of range"
  | .controlCharacter => "control character (\\u0000-\\u001F) found while parsing a string"
  | .keyNotString => "key must be a string"
  | .loneSurrogate => "lone leading surrogate in hex escape"
  | .endOfHexEscape => "unexpected end of hex escape"
  | .trailingComma => "trailing comma"
  | .trailingCharacters => "trailing characters"
  | .tooDeep => "recursion limit exceeded"

/-- A cause, and how many bytes of the text follow the place it is reported at. -/
structure Fault where
  cause : Cause
  left : Nat
deriving DecidableEq, Repr

def byteLength (cs : List Char) : Nat := cs.foldl (fun n c => n + c.utf8Size) 0

/-- A fault reported right before `rest`. -/
def Fault.before (cause : Cause) (rest : List Char) : Fault := ⟨cause, byteLength rest⟩

/-- A fault reported after the first `n` bytes of `rest`, or at its end if it is shorter. -/
def Fault.inside (cause : Cause) (n : Nat) (rest : List Char) : Fault :=
  ⟨cause, byteLength rest - n⟩

/-- The line, from one, and the column after `bytes` bytes of a text. -/
def position (text : List Char) (bytes : Nat) : Nat × Nat :=
  go text bytes 1 0
where
  go : List Char → Nat → Nat → Nat → Nat × Nat
    | [], _, line, column => (line, column)
    | c :: rest, bytes, line, column =>
        if bytes < c.utf8Size then (line, column + bytes)
        else if c = '\n' then go rest (bytes - 1) (line + 1) 0
        else go rest (bytes - c.utf8Size) line (column + c.utf8Size)

/-- The fault of a text in words, with its place. -/
def Fault.message (fault : Fault) (text : List Char) : String :=
  let (line, column) := position text (byteLength text - fault.left)
  fault.cause.text ++ " at line " ++ String.ofList (decimalDigits line) ++
    " column " ++ String.ofList (decimalDigits column)

end ConsoleView.Json
