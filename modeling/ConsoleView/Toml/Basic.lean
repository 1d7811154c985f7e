/-
# ConsoleView.Toml.Basic -- the values of a configuration file and its lines

Only the space and the tab are blank within a line.  A line ends with a line
feed, which may have a carriage return before it; a carriage return alone is
nothing.
-/
import ConsoleView.NameMap

namespace ConsoleView

set_option autoImplicit false

/-- A TOML value.  A date, a time or both are kept as they are written. -/
inductive Toml where
  | string (s : String)
  | int (n : Int)
  | real (x : Float)
  | bool (b : Bool)
  | moment (text : String)
  | array (items : List Toml)
  | table (entries : List (String × Toml))
deriving Inhabited

namespace Toml

/-- A reader of one thing at the start of a text. -/
abbrev Reader (α : Type) := List Char → Option (α × List Char)

/-! ## Blanks, comments and ends of lines -/

def isBlank (c : Char) : Bool := c = ' ' || c = '\t'

def skipBlanks (cs : List Char) : List Char := cs.dropWhile isBlank

/-- The text after the end of a line. -/
def lineFeed? : List Char → Option (List Char)
  | '\n' :: rest => some rest
  | '\r' :: '\n' :: rest => some rest
  | _ => none

def isCommentChar (c : Char) : Bool :=
  c = '\t' || (0x20 ≤ c.toNat && c.toNat ≠ 0x7F)

/-- The text after a comment, if one starts here. -/
def skipComment : List Char → List Char
  | '#' :: rest => rest.dropWhile isCommentChar
  | cs => cs

/-- The text after the end of a line or at the end of the file. -/
def lineEnd? : List Char → Option (List Char)
  | [] => some []
  | cs => lineFeed? cs

/-- The rest of a line after an expression: blanks, perhaps a comment, the end. -/
def restOfLine? (cs : List Char) : Option (List Char) := lineEnd? (skipComment (skipBlanks cs))

/-- The text after blanks and ends of lines; no comments. -/
def skipOpenLines : List Char → List Char
  | ' ' :: rest => skipOpenLines rest
  | '\t' :: rest => skipOpenLines rest
  | '\n' :: rest => skipOpenLines rest
  | '\r' :: '\n' :: rest => skipOpenLines rest
  | cs => cs

/-- The text after blanks, comments and ends of lines, each comment being ended by its line. -/
def skipLines : (room : Nat) → List Char → List Char
  | 0, cs => cs
  | room + 1, cs =>
      match skipOpenLines cs with
      | '#' :: rest =>
          match lineFeed? (rest.dropWhile isCommentChar) with
          | some rest => skipLines room rest
          | none => '#' :: rest
      | cs => cs

end Toml

end ConsoleView
