/-
# ConsoleView.Json.Record -- records as JSON objects, and as lists

A record type is described by its fields in declared order; a field knows its
names, how to write itself from a record and how to read a value into one.
Reading starts from the record of defaults and puts one field after another.

An object is read in the order of its entries: names that belong to no field
are passed over, a field may come once, and what is missing is looked for at
the end.  A list is read by position: it may stop before the first required
field that has not come, and it may not go on after the last one.
-/
import ConsoleView.Json.Codec

namespace ConsoleView.Json

set_option autoImplicit false

structure Field (ρ : Type) where
  name : String
  /-- A second name under which the field is read. -/
  alternative : Option String := none
  required : Bool := false
  write : ρ → Json
  /-- Read a value into the field. -/
  put : Json → ρ → Except Mismatch ρ

namespace Field

variable {ρ α : Type}

/-- The field seen through `get` and `set`. -/
def of (name : String) (codec : Codec α) (get : ρ → α) (set : ρ → α → ρ) : Field ρ where
  name := name
  write r := codec.write (get r)
  put j r := return set r (← codec.read j)

/-- The same field without a default. -/
def needed (f : Field ρ) : Field ρ := { f with required := true }

/-- The same field with a second name. -/
def orNamed (f : Field ρ) (name : String) : Field ρ := { f with alternative := some name }

def hasName (f : Field ρ) (name : String) : Bool := f.name == name || f.alternative == some name

end Field

/-- A record type: its name in messages, its defaults, its fields in declared order. -/
structure RecordShape (ρ : Type) where
  name : String
  blank : ρ
  fields : List (Field ρ)

namespace RecordShape

variable {ρ : Type}

/-- Put the entries of an object into a record, one after another; `seen` are the names of the
fields that have come. -/
def putEntries (fields : List (Field ρ)) :
    Entries Json → List String → ρ → Except Mismatch (ρ × List String)
  | [], seen, r => .ok (r, seen)
  | (name, j) :: rest, seen, r =>
      match fields.find? (·.hasName name) with
      | none => putEntries fields rest seen r
      | some f =>
          if seen.contains f.name then .error (.duplicateField f.name)
          else
            match f.put j r with
            | .error mismatch => .error mismatch
            | .ok r => putEntries fields rest (f.name :: seen) r

/-- Put the items of a list into a record by position, `position` of them being done. -/
def putItems (shape : RecordShape ρ) (length : Nat) :
    List (Field ρ) → List Json → Nat → ρ → Except Mismatch ρ
  | [], [], _, r => .ok r
  | [], _ :: _, _, _ => .error (.tooMany length)
  | f :: fields, [], position, r =>
      if f.required then .error (.tooFew position shape.name shape.fields.length)
      else putItems shape length fields [] (position + 1) r
  | f :: fields, j :: rest, position, r =>
      match f.put j r with
      | .error mismatch => .error mismatch
      | .ok r => putItems shape length fields rest (position + 1) r

def read (shape : RecordShape ρ) : Json → Except Mismatch ρ
  | .object entries =>
      match putEntries shape.fields entries [] shape.blank with
      | .error mismatch => .error mismatch
      | .ok (r, seen) =>
          match shape.fields.find? fun f => f.required && !seen.contains f.name with
          | some f => .error (.missingField f.name)
          | none => .ok r
  | .array items => putItems shape items.length shape.fields items 0 shape.blank
  | j => .error (.wrongKind j (.record shape.name))

def write (shape : RecordShape ρ) (r : ρ) : Json :=
  ofMap (NameMap.ofList (shape.fields.map fun f => (f.name, f.write r)))

def codec (shape : RecordShape ρ) : Codec ρ where
  write := shape.write
  read := shape.read

end RecordShape

end ConsoleView.Json
