/-
# ConsoleView.Proofs.Json.Datum -- a writer that can refuse

Data that is written as JSON need not be a JSON value: a map may have keys of any
kind.  The writer of such data writes strings as they are, puts scalars in quotes,
and refuses every other key, and with it the whole.  A JSON value has strings for
keys only, so it is never refused and its text is the one of the printer
(`write_datum`).
-/
import ConsoleView.Proofs.Json.ReadBack

namespace ConsoleView

set_option autoImplicit false

/-- Data to be written. -/
inductive Datum where
  | unit
  | bool (b : Bool)
  | int (n : Int)
  | real (x : Float)
  | string (s : String)
  | sequence (items : List Datum)
  | map (entries : List (Datum × Datum))
deriving Inhabited

namespace Datum

open Json

def quoted (cs : List Char) : List Char := '"' :: cs ++ ['"']

/-- The text of a key; there is none for what is no scalar or has no digits. -/
def writeKey : Datum → Option (List Char)
  | .string s => some (stringChars s)
  | .bool b => some (quoted (chars (.bool b)))
  | .int n => some (quoted (intChars n))
  | .real x => if x.isFinite then some (quoted (realChars x)) else none
  | _ => none

def separator (first : Bool) : List Char := if first then [] else [',']

mutual

/-- The text of the data, unless a key in it has none. -/
def write : Datum → Option (List Char)
  | .unit => some (chars .null)
  | .bool b => some (chars (.bool b))
  | .int n => some (intChars n)
  | .real x => some (realChars x)
  | .string s => some (stringChars s)
  | .sequence items => do
      let cs ← writeItems true items
      return '[' :: cs ++ [']']
  | .map entries => do
      let cs ← writeEntries true entries
      return '\x7b' :: cs ++ ['\x7d']

def writeItems (first : Bool) : List Datum → Option (List Char)
  | [] => some []
  | d :: rest => do
      let item ← write d
      let later ← writeItems false rest
      return separator first ++ item ++ later

def writeEntries (first : Bool) : List (Datum × Datum) → Option (List Char)
  | [] => some []
  | (key, d) :: rest => do
      let name ← writeKey key
      let item ← write d
      let later ← writeEntries false rest
      return separator first ++ name ++ ':' :: item ++ later

end

example : (map [(.sequence [], .unit)]).write = none := by cbv

end Datum

namespace Json

mutual

def datum : Json → Datum
  | .null => .unit
  | .bool b => .bool b
  | .int n => .int n
  | .real x => .real x
  | .string s => .string s
  | .array items => .sequence (datumItems items)
  | .object fields => .map (datumFields fields)

def datumItems : List Json → List Datum
  | [] => []
  | j :: rest => datum j :: datumItems rest

def datumFields : List (String × Json) → List (Datum × Datum)
  | [] => []
  | (name, j) :: rest => (.string name, datum j) :: datumFields rest

end

mutual

/-- **A JSON value is always written**, as it is printed. -/
theorem write_datum (j : Json) : j.datum.write = some (chars j) := by
  match j with
  | .null | .bool _ | .int _ | .real _ | .string _ => rfl
  | .array items =>
      rw [datum, Datum.write, writeItems_datum true items]
      rfl
  | .object fields =>
      rw [datum, Datum.write, writeEntries_datum true fields]
      rfl

theorem writeItems_datum (first : Bool) (items : List Json) :
    Datum.writeItems first (datumItems items) =
      some (if first then itemChars items else itemTail items) := by
  match items with
  | [] => cases first <;> rfl
  | j :: rest =>
      rw [datumItems, Datum.writeItems, write_datum j, writeItems_datum false rest, itemChars_cons]
      cases first <;> rfl

theorem writeEntries_datum (first : Bool) (fields : List (String × Json)) :
    Datum.writeEntries first (datumFields fields) =
      some (if first then fieldChars fields else fieldTail fields) := by
  match fields with
  | [] => cases first <;> rfl
  | (name, j) :: rest =>
      rw [datumFields, Datum.writeEntries, write_datum j, writeEntries_datum false rest,
        fieldChars_cons]
      cases first <;> rfl

end

end Json

end ConsoleView
