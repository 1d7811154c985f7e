/-
# ConsoleView.Toml.Reader -- the table a file stands for

A file is a sequence of lines: bindings of keys, headers of tables, comments and
blank lines.  A file is read whole or not at all.  The recursion follows the
nesting of values; loops over one list are bounded by `room`, the length of the
file.
-/
import ConsoleView.Toml.Scalar
import ConsoleView.Toml.Tree

namespace ConsoleView.Toml

set_option autoImplicit false

/-! ## Keys -/

/-- The names of a dotted key are fewer than this. -/
def keyBound : Nat := 80

/-- How many arrays and inline tables may be nested. -/
def maxNesting : Nat := 79

def isBareChar (c : Char) : Bool := c.isAlphanum || c == '-' || c == '_'

def name (room : Nat) : Reader String
  | '"' :: rest => lineText room ('"' :: rest)
  | '\'' :: rest => lineText room ('\'' :: rest)
  | cs =>
      let bare := cs.takeWhile isBareChar
      if bare.isEmpty then none else some (String.ofList bare, cs.dropWhile isBareChar)

/-- The names of a key, those in `taken` being done, the last one first. -/
def names (room : Nat) : (steps : Nat) → (taken : List String) → Reader (List String)
  | 0, _, _ => none
  | steps + 1, taken, cs =>
      match name room (skipBlanks cs) with
      | none => none
      | some (n, rest) =>
          match skipBlanks rest with
          | '.' :: rest => names room steps (n :: taken) rest
          | rest => some ((n :: taken).reverse, rest)

/-- A key: the path before the last name, and the last name. -/
def key (room : Nat) : Reader (List String × String) := fun cs =>
  match names room room [] cs with
  | none => none
  | some (parts, rest) =>
      if parts.length < keyBound then some ((parts.dropLast, parts.getLast?.getD ""), rest)
      else none

def keyEquals (room : Nat) : Reader (List String × String) := fun cs =>
  match key room cs with
  | some (k, '=' :: rest) => some (k, skipBlanks rest)
  | _ => none

/-! ## Values -/

/-- The items of an array after those in `taken`, the last one first. -/
def arrayRest (room : Nat) (value : Reader Toml) : (steps : Nat) → (taken : List Toml) → Reader Toml
  | 0, _, _ => none
  | steps + 1, taken, cs =>
      match skipLines room cs with
      | ']' :: rest => some (.array taken.reverse, rest)
      | cs =>
          match value cs with
          | none => none
          | some (v, rest) =>
              match skipLines room rest with
              | ',' :: rest => arrayRest room value steps (v :: taken) rest
              | ']' :: rest => some (.array (v :: taken).reverse, rest)
              | _ => none

/-- The bindings of an inline table, the first one coming now. -/
def inlineRest (room : Nat) (value : Reader Toml) : (steps : Nat) → (items : Items) → Reader Toml
  | 0, _, _ => none
  | steps + 1, items, cs =>
      match keyEquals room cs with
      | none => none
      | some ((path, n), rest) =>
          match value rest with
          | none => none
          | some (v, rest) =>
              match bindKey v path n items with
              | none => none
              | some items =>
                  match skipBlanks rest with
                  | ',' :: rest => inlineRest room value steps items rest
                  | '\x7d' :: rest => some (.table (entryValues items), rest)
                  | _ => none

/-- A value, with at most `nesting` arrays and inline tables inside each other. -/
def value (room : Nat) : (nesting : Nat) → Reader Toml
  | nesting, cs =>
    match cs with
    | '"' :: _ => (text room cs).map fun (s, rest) => (.string s, rest)
    | '\'' :: _ => (text room cs).map fun (s, rest) => (.string s, rest)
    | '[' :: rest =>
        match nesting with
        | 0 => none
        | nesting + 1 => arrayRest room (value room nesting) room [] rest
    | '\x7b' :: rest =>
        match nesting with
        | 0 => none
        | nesting + 1 =>
            match skipBlanks rest with
            | '\x7d' :: rest => some (.table [], rest)
            | _ => inlineRest room (value room nesting) room [] rest
    | cs => scalar cs

/-! ## Lines -/

/-- What has been read: the root table, and the path of the table that bindings go to. -/
structure Progress where
  root : Items := []
  path : List String := []

def Progress.bind (d : Progress) (path : List String) (n : String) (v : Toml) : Option Progress :=
  (within (bindKey v path n) d.path d.root).map fun root => { d with root }

/-- Open a table, or one more table of a list. -/
def Progress.openHeader (d : Progress) (path : List String) (n : String) (element : Bool) :
    Option Progress :=
  (within (if element then openElement n else openTable n) path d.root).map fun root =>
    { root, path := path ++ [n] }

def header (room : Nat) (d : Progress) : Reader Progress
  | '[' :: rest =>
      match key room rest with
      | some ((path, n), ']' :: ']' :: rest) =>
          (d.openHeader path n true).map fun d => (d, rest)
      | _ => none
  | cs =>
      match key room cs with
      | some ((path, n), ']' :: rest) => (d.openHeader path n false).map fun d => (d, rest)
      | _ => none

def binding (room : Nat) (d : Progress) : Reader Progress := fun cs =>
  match keyEquals room cs with
  | none => none
  | some ((path, n), rest) =>
      match value room maxNesting rest with
      | none => none
      | some (v, rest) => (d.bind path n v).map fun d => (d, rest)

def lines (room : Nat) : (steps : Nat) → Progress → List Char → Option Progress
  | 0, _, _ => none
  | steps + 1, d, cs =>
      match skipBlanks cs with
      | [] => some d
      | c :: rest =>
          let read :=
            if c = '[' then header room d rest
            else if c = '#' || c = '\n' || c = '\r' then some (d, c :: rest)
            else binding room d (c :: rest)
          match read with
          | none => none
          | some (d, rest) =>
              match restOfLine? rest with
              | none => none
              | some rest => lines room steps d rest

/-- The text after the mark some editors put first. -/
def dropMark : List Char → List Char
  | '\uFEFF' :: rest => rest
  | cs => cs

def read (file : String) : Option Toml :=
  let cs := dropMark file.toList
  let room := cs.length + 1
  (lines room (room + 1) {} cs).map fun d => .table (entryValues d.root)

end ConsoleView.Toml
