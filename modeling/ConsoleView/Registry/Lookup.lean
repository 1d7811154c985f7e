/-
# ConsoleView.Registry.Lookup -- finding a component by the name in markup

Markup may write a name in camel case or with its words apart, and may put
`data-` or `x-` before it.  `normalizeName` brings all these forms to camel
case; the lookup compares nothing but normal forms.
-/
import ConsoleView.Error
import ConsoleView.Registry.Table
import ConsoleView.Text.Upper

namespace ConsoleView

set_option autoImplicit false

/-! ## Normal forms -/

def isSeparator (c : Char) : Bool := c = '-' || c = '_' || c = ':'

/-- The name without one `data-` or else one `x-` at its start. -/
def dropMarker : List Char → List Char
  | 'd' :: 'a' :: 't' :: 'a' :: '-' :: rest => rest
  | 'x' :: '-' :: rest => rest
  | cs => cs

/-- The words of a name joined, each but the first with its first character in upper case.
`started` tells whether anything has been written, `raise` whether a word starts here. -/
def camelCase (started raise : Bool) : List Char → List Char
  | [] => []
  | c :: rest =>
      if isSeparator c then camelCase started started rest
      else if raise then Text.upperChar c ++ camelCase true false rest
      else c :: camelCase true false rest

def normalizeName (name : String) : String :=
  String.ofList (camelCase false false (dropMarker name.toList))

/-! ## Lookup -/

/-- The component that `name` means where it is used as `usage`. -/
def lookup (name : String) (usage : Usage) : Option Descriptor :=
  registry.find? fun d => d.usage == usage && d.name == normalizeName name

/-- The component that `name` means; a name that means none is an error. -/
def require (name : String) (usage : Usage) : Except ViewError Descriptor :=
  match lookup name usage with
  | some d => .ok d
  | none => .error (.unknownComponent name)

/-- The component that `name` means as a tag, or else as a class. -/
def resolveName (name : String) : Option Descriptor :=
  (lookup name .element).or (lookup name .className)

theorem mem_of_lookup {name : String} {usage : Usage} {d : Descriptor}
    (found : lookup name usage = some d) :
    d ∈ registry ∧ d.usage = usage ∧ d.name = normalizeName name := by
  have test := List.find?_some found
  simp only [Bool.and_eq_true, beq_iff_eq] at test
  exact ⟨List.mem_of_find?_eq_some found, test⟩

/-- Names of one normal form mean the same. -/
theorem lookup_congr {a b : String} (same : normalizeName a = normalizeName b) (usage : Usage) :
    lookup a usage = lookup b usage := by
  simp [lookup, same]

example : normalizeName "data-role-env-link" = "roleEnvLink" := by decide +kernel
example : normalizeName "x-x--job_link:" = "xJobLink" := by decide +kernel

end ConsoleView
