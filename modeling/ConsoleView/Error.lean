/-
# ConsoleView.Error -- what can go wrong in the binding layer

A recoverable error fails one component: its siblings keep rendering, and the
page shows a placeholder in its place.  The others end the operation.
-/
import ConsoleView.Disk.Basic
import ConsoleView.Json.Codec

namespace ConsoleView

set_option autoImplicit false

inductive ViewError where
  | io (fault : FileFault)
  | json (mismatch : Json.Mismatch)
  | templateNotFound (name : String)
  | templateRead (name : String) (path : String) (reason : String)
  | unknownComponent (name : String)
  | malformedInput (component : String) (message : String)
  | missingInput (component : String) (input : String)
  | nodeNotFound (node : Nat)
  | config (message : String)

namespace ViewError

def message : ViewError → String
  | .io fault => "IO error: " ++ fault.text
  | .json mismatch => "JSON parsing error: " ++ mismatch.message
  | .templateNotFound name => "Template not found: " ++ name
  | .templateRead name path reason =>
      "Failed to read template " ++ name ++ " from " ++ path ++ ": " ++ reason
  | .unknownComponent name => "Unknown component: " ++ name
  | .malformedInput component message => "Malformed input for " ++ component ++ ": " ++ message
  | .missingInput component input =>
      "Missing required input '" ++ input ++ "' for " ++ component
  | .nodeNotFound node => "DOM node " ++ toString node ++ " does not exist"
  | .config message => "Configuration error: " ++ message

/-- Whether the error fails only the component it arose in. -/
def isRecoverable : ViewError → Bool
  | .json _ | .templateNotFound _ | .templateRead _ _ _ | .malformedInput _ _
  | .missingInput _ _ => true
  | .io _ | .unknownComponent _ | .nodeNotFound _ | .config _ => false

end ViewError

def Json.Codec.decode {α : Type} (codec : Json.Codec α) (j : Json) : Except ViewError α :=
  match codec.read j with
  | .ok a => .ok a
  | .error mismatch => .error (.json mismatch)

namespace Json.Codec

variable {α : Type} {codec : Codec α} {j : Json}

theorem decode_eq_ok {a : α} : codec.decode j = .ok a ↔ codec.read j = .ok a := by
  rw [decode]
  cases codec.read j <;> simp

theorem decode_eq_error {e : ViewError} :
    codec.decode j = .error e ↔ ∃ m, codec.read j = .error m ∧ e = .json m := by
  rw [decode]
  cases codec.read j <;> simp [eq_comm]

end Json.Codec

end ConsoleView
