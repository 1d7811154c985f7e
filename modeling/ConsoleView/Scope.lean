/-
# ConsoleView.Scope -- the values a template or a subtree reads from

A scope binds names to JSON values.  A parent builds it and passes it down;
nothing is inherited.  Binding a bound name replaces its value.

What is bound is what a codec writes.  A writer of JSON could refuse a value (a
map whose keys are no texts, or a wider integer than JSON numbers have); the
records, lists, texts and numbers that are bound here are none of these, so a
codec writes every value of its type and a scope is always built.  The inputs of
a component and the grid that is mounted under them rest on this.
-/
import ConsoleView.Json.Codec

namespace ConsoleView

set_option autoImplicit false

structure Scope where
  values : NameMap Json := NameMap.empty

namespace Scope

def empty : Scope := {}

def insert (scope : Scope) (name : String) (value : Json) : Scope :=
  ⟨scope.values.insert name value⟩

/-- Bind what a codec writes for a value. -/
def bind {α : Type} (scope : Scope) (name : String) (codec : Json.Codec α) (a : α) : Scope :=
  scope.insert name (codec.write a)

def get? (scope : Scope) (name : String) : Option Json := scope.values.get? name

def contains (scope : Scope) (name : String) : Bool := scope.values.contains name

def names (scope : Scope) : List String := scope.values.names

def size (scope : Scope) : Nat := scope.values.size

def isEmpty (scope : Scope) : Bool := scope.values.isEmpty

def toJson (scope : Scope) : Json := Json.ofMap scope.values

def ofFields (fields : List (String × Json)) : Scope := ⟨NameMap.ofList fields⟩

def ofJson? : Json → Option Scope
  | .object fields => some (ofFields fields)
  | _ => none

/-- Scopes are compared by the values they bind. -/
instance : BEq Scope := ⟨fun a b => a.toJson == b.toJson⟩

theorem get?_insert (scope : Scope) (name : String) (value : Json) (other : String) :
    (scope.insert name value).get? other = if other = name then some value else scope.get? other :=
  NameMap.get?_insert scope.values name value other

/-- A scope is what it binds. -/
theorem ext_get? {a b : Scope} (same : ∀ name, a.get? name = b.get? name) : a = b := by
  cases a; cases b; exact congrArg Scope.mk (NameMap.ext_get? same)

end Scope

end ConsoleView
