/-
# ConsoleView.Json.Reader -- the value a text stands for

The reader is strict: one value, blanks around it, nothing else.  The last of
several fields of one name counts, and the fields of an object come out in
ascending order of their names.  Arrays and objects may be nested up to a given
depth.  The recursion follows that depth; inside one array, object or string a
loop takes one item after another; `room`, the length of the text, bounds its
steps.
-/
import ConsoleView.Json.NumberReader

namespace ConsoleView.Json

set_option autoImplicit false

/-- A reader of one thing at the start of a text. -/
abbrev Reader (α : Type) := List Char → Except Fault (α × List Char)

/-! ## Blanks and words -/

def isBlank (c : Char) : Bool := c = ' ' || c = '\n' || c = '\t' || c = '\r'

def skipBlanks (cs : List Char) : List Char := cs.dropWhile isBlank

/-- The remaining letters of `null`, `true` or `false`. -/
def word (value : Json) : List Char → Reader Json
  | [], rest => .ok (value, rest)
  | _ :: _, [] => .error (.before .endInValue [])
  | c :: expected, d :: rest =>
      if c = d then word value expected rest
      else .error (.inside .expectedWord 1 (d :: rest))

/-! ## Strings -/

def hexDigit? (c : Char) : Option Nat :=
  if c.isDigit then some (c.toNat - '0'.toNat)
  else if 'a' ≤ c && c ≤ 'f' then some (c.toNat - 'a'.toNat + 10)
  else if 'A' ≤ c && c ≤ 'F' then some (c.toNat - 'A'.toNat + 10)
  else none

def hexFour (cs : List Char) : Except Fault (Nat × List Char) :=
  let hex : Option (Nat × List Char) := do
    match cs with
    | a :: b :: c :: d :: rest => do
        let high := (← hexDigit? a) * 16 + (← hexDigit? b)
        let low := (← hexDigit? c) * 16 + (← hexDigit? d)
        some (high * 256 + low, rest)
    | _ => none
  match hex with
  | some read => .ok read
  | none =>
      if byteLength cs < 4 then .error ⟨.endInString, 0⟩
      else .error (.inside .invalidEscape 4 cs)

def expect (c : Char) : List Char → Except Fault (List Char)
  | [] => .error (.before .endInString [])
  | d :: rest => if d = c then .ok rest else .error (.inside .endOfHexEscape 1 (d :: rest))

/-- The character after `\u`: one code, or the codes of a high and a low surrogate. -/
def unicodeEscape : Reader Char := fun cs => do
  let (n, rest) ← hexFour cs
  if 0xDC00 ≤ n ∧ n ≤ 0xDFFF then .error (.before .loneSurrogate rest)
  else if 0xD800 ≤ n ∧ n ≤ 0xDBFF then do
    let rest ← expect '\\' rest
    let rest ← expect 'u' rest
    let (m, rest) ← hexFour rest
    if 0xDC00 ≤ m ∧ m ≤ 0xDFFF then
      .ok (Char.ofNat (0x10000 + (n - 0xD800) * 0x400 + (m - 0xDC00)), rest)
    else .error (.before .loneSurrogate rest)
  else .ok (Char.ofNat n, rest)

def escape : Reader Char
  | [] => .error (.before .endInString [])
  | '"' :: rest => .ok ('"', rest)
  | '\\' :: rest => .ok ('\\', rest)
  | '/' :: rest => .ok ('/', rest)
  | 'b' :: rest => .ok ('\x08', rest)
  | 'f' :: rest => .ok ('\x0C', rest)
  | 'n' :: rest => .ok ('\n', rest)
  | 'r' :: rest => .ok ('\r', rest)
  | 't' :: rest => .ok ('\t', rest)
  | 'u' :: rest => unicodeEscape rest
  | c :: rest => .error (.inside .invalidEscape 1 (c :: rest))

/-- The next character of a string, or nothing at its closing quote. -/
def stringChar : Reader (Option Char)
  | [] => .error (.before .endInString [])
  | '"' :: rest => .ok (none, rest)
  | '\\' :: rest => do
      let (c, rest) ← escape rest
      .ok (some c, rest)
  | c :: rest =>
      if c.toNat < 0x20 then .error (.before .controlCharacter rest) else .ok (some c, rest)

/-- The characters up to the closing quote, after those in `taken`, the last one first. -/
def stringLoop : Nat → List Char → Reader String
  | 0, _, rest => .error (.before .endInString rest)
  | fuel + 1, taken, rest =>
      match stringChar rest with
      | .error fault => .error fault
      | .ok (none, rest) => .ok (String.ofList taken.reverse, rest)
      | .ok (some c, rest) => stringLoop fuel (c :: taken) rest

def stringEnd (room : Nat) : Reader String := stringLoop room []

/-! ## Arrays and objects -/

/-- The items of an array, after those in `taken`, the last one first. -/
def itemLoop (value : Reader Json) : Nat → List Json → Reader Json
  | 0, _, rest => .error (.before .endInList rest)
  | fuel + 1, taken, rest =>
      match skipBlanks rest with
      | [] => .error (.before .endInList [])
      | ']' :: rest => .ok (.array taken.reverse, rest)
      | c :: rest =>
          let item (rest : List Char) : Except Fault (Json × List Char) :=
            match value rest with
            | .error fault => .error fault
            | .ok (x, rest) => itemLoop value fuel (x :: taken) rest
          if taken.isEmpty then item (c :: rest)
          else if c = ',' then
            match skipBlanks rest with
            | [] => .error (.before .endInValue [])
            | ']' :: rest => .error (.inside .trailingComma 1 (']' :: rest))
            | rest => item rest
          else .error (.inside .expectedListEnd 1 (c :: rest))

def fieldValue (value : Reader Json) : Reader Json := fun rest =>
  match skipBlanks rest with
  | [] => .error (.before .endInObject [])
  | ':' :: rest => value rest
  | rest => .error (.inside .expectedColon 1 rest)

/-- The fields of an object, after those in `taken`, the last one first. -/
def fieldLoop (room : Nat) (value : Reader Json) : Nat → List (String × Json) → Reader Json
  | 0, _, rest => .error (.before .endInObject rest)
  | fuel + 1, taken, rest =>
      let field (rest : List Char) : Except Fault (Json × List Char) :=
        match stringEnd room rest with
        | .error fault => .error fault
        | .ok (name, rest) =>
            match fieldValue value rest with
            | .error fault => .error fault
            | .ok (x, rest) => fieldLoop room value fuel ((name, x) :: taken) rest
      match skipBlanks rest with
      | [] => .error (.before .endInObject [])
      | '\x7d' :: rest => .ok (ofMap (NameMap.ofList taken.reverse), rest)
      | c :: rest =>
          if taken.isEmpty then
            if c = '"' then field rest else .error (.inside .keyNotString 1 (c :: rest))
          else if c = ',' then
            match skipBlanks rest with
            | [] => .error (.before .endInValue [])
            | '"' :: rest => field rest
            | '\x7d' :: rest => .error (.inside .trailingComma 1 ('\x7d' :: rest))
            | rest => .error (.inside .keyNotString 1 rest)
          else .error (.inside .expectedObjectEnd 1 (c :: rest))

/-! ## Values -/

/-- One value, with at most `nesting` arrays and objects inside each other.  No loop takes more
than `room` steps. -/
def value (room : Nat) : (nesting : Nat) → Reader Json
  | nesting, rest =>
    match skipBlanks rest with
    | [] => .error (.before .endInValue [])
    | 'n' :: rest => word .null ['u', 'l', 'l'] rest
    | 't' :: rest => word (.bool true) ['r', 'u', 'e'] rest
    | 'f' :: rest => word (.bool false) ['a', 'l', 's', 'e'] rest
    | '-' :: rest => number true rest
    | '"' :: rest => do
        let (s, rest) ← stringEnd room rest
        .ok (.string s, rest)
    | '[' :: rest =>
        match nesting with
        | 0 => .error (.inside .tooDeep 1 ('[' :: rest))
        | nesting + 1 => itemLoop (value room nesting) room [] rest
    | '\x7b' :: rest =>
        match nesting with
        | 0 => .error (.inside .tooDeep 1 ('\x7b' :: rest))
        | nesting + 1 => fieldLoop room (value room nesting) room [] rest
    | c :: rest =>
        if c.isDigit then number false (c :: rest)
        else .error (.inside .expectedValue 1 (c :: rest))

/-- A text that is one value and nothing else. -/
def readChars (nesting : Nat) (text : List Char) : Except Fault Json :=
  match value (text.length + 1) nesting text with
  | .error fault => .error fault
  | .ok (x, rest) =>
      match skipBlanks rest with
      | [] => .ok x
      | rest => .error (.inside .trailingCharacters 1 rest)

def read (nesting : Nat) (text : String) : Except String Json :=
  match readChars nesting text.toList with
  | .ok x => .ok x
  | .error fault => .error (fault.message text.toList)

end ConsoleView.Json
