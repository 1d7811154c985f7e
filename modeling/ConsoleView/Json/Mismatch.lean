/-
# ConsoleView.Json.Mismatch -- how a JSON value can fail to be of a type

A reader of typed values stops at the first part that does not fit and says
which kind of thing it found and which it wanted.  `Mismatch.message` is the
text shown for it.
-/
import ConsoleView.Json.Printer
import ConsoleView.Text.Quoted

namespace ConsoleView.Json

set_option autoImplicit false

inductive Wanted where
  | record (name : String)
  | string
  | boolean
  | sequence
  | path
  | uint32
  | uint64
  | int64
  | index
  | float
deriving DecidableEq, Repr

def Wanted.text : Wanted → String
  | .record name => "struct " ++ name
  | .string => "a string"
  | .boolean => "a boolean"
  | .sequence => "a sequence"
  | .path => "path string"
  | .uint32 => "u32"
  | .uint64 => "u64"
  | .int64 => "i64"
  | .index => "usize"
  | .float => "f64"

inductive Mismatch where
  /-- A value of another kind. -/
  | wrongKind (found : Json) (wanted : Wanted)
  /-- An integer outside the bounds of the type. -/
  | outOfBounds (found : Int) (wanted : Wanted)
  | missingField (name : String)
  /-- The field is there twice, under two of its names. -/
  | duplicateField (name : String)
  /-- A record written as a list that ends before a required field. -/
  | tooFew (length : Nat) (record : String) (fields : Nat)
  /-- A record written as a list that goes on after its last field. -/
  | tooMany (length : Nat)
deriving Inhabited

def kindText : Json → String
  | .null => "null"
  | .bool true => "boolean `true`"
  | .bool false => "boolean `false`"
  | .int n => "integer `" ++ String.ofList (intChars n) ++ "`"
  | .real x => "floating point `" ++ String.ofList (realChars x) ++ "`"
  | .string s => "string " ++ Text.quote s
  | .array _ => "sequence"
  | .object _ => "map"

def Mismatch.message : Mismatch → String
  | .wrongKind found wanted => "invalid type: " ++ kindText found ++ ", expected " ++ wanted.text
  | .outOfBounds n wanted => "invalid value: " ++ kindText (.int n) ++ ", expected " ++ wanted.text
  | .missingField name => "missing field `" ++ name ++ "`"
  | .duplicateField name => "duplicate field `" ++ name ++ "`"
  | .tooFew length record fields =>
      "invalid length " ++ toString length ++ ", expected struct " ++ record ++ " with " ++
        toString fields ++ (if fields = 1 then " element" else " elements")
  | .tooMany length =>
      "invalid length " ++ toString length ++ ", expected fewer elements in array"

end ConsoleView.Json
