/-
# ConsoleView.Json.Basic -- JSON values

Numbers come in two kinds: integers, and doubles.  `1` and `1.0` are different
values, and no operation turns one into the other.  An object is its list of
fields; whatever builds an object from a text or a map lists the names in
ascending order.
-/
import ConsoleView.NameMap

namespace ConsoleView

set_option autoImplicit false

inductive Json where
  | null
  | bool (b : Bool)
  | int (n : Int)
  | real (x : Float)
  | string (s : String)
  | array (items : List Json)
  | object (fields : List (String × Json))
deriving Inhabited

namespace Json

/-! ## Equality

Two values are the same when they are built alike from the same scalars;
doubles are compared as numbers, so the two zeros are the same. -/

mutual

def same : Json → Json → Bool
  | .null, .null => true
  | .bool a, .bool b => a == b
  | .int a, .int b => a == b
  | .real a, .real b => a == b
  | .string a, .string b => a == b
  | .array a, .array b => sameItems a b
  | .object a, .object b => sameFields a b
  | _, _ => false

def sameItems : List Json → List Json → Bool
  | [], [] => true
  | x :: xs, y :: ys => same x y && sameItems xs ys
  | _, _ => false

def sameFields : List (String × Json) → List (String × Json) → Bool
  | [], [] => true
  | (k, x) :: xs, (l, y) :: ys => k == l && same x y && sameFields xs ys
  | _, _ => false

end

instance : BEq Json := ⟨same⟩

/-! ## Parts -/

def field? (name : String) : Json → Option Json
  | .object fields => Entries.get? fields name
  | _ => none

def isNull : Json → Bool
  | .null => true
  | _ => false

def ofMap (m : NameMap Json) : Json := .object m.entries

/-- The nesting of arrays and objects around the innermost value. -/
def depth : Json → Nat
  | .array items => 1 + depthItems items
  | .object fields => 1 + depthFields fields
  | _ => 0
where
  depthItems : List Json → Nat
    | [] => 0
    | x :: xs => max (depth x) (depthItems xs)
  depthFields : List (String × Json) → Nat
    | [] => 0
    | (_, x) :: xs => max (depth x) (depthFields xs)

end Json

end ConsoleView
