/-
# ConsoleView.Template.Resolver -- from a template's name to its markup

A resolver answers for each name with markup or an error; an error is passed on
as it is, without a second try and without other markup in its place.  The
fixed resolver serves what was registered with it.
-/
import ConsoleView.Error
import ConsoleView.Scope
import ConsoleView.Template.Name

namespace ConsoleView

set_option autoImplicit false

abbrev Resolver := TemplateName → Except ViewError String

/-- A template's markup, with the scope it is rendered against. -/
structure TemplateBinding where
  template : TemplateName
  markup : String
  scope : Scope

def bindTemplate (resolve : Resolver) (template : TemplateName) (scope : Scope) :
    Except ViewError TemplateBinding :=
  match resolve template with
  | .ok markup => .ok { template, markup, scope }
  | .error e => .error e

/-- Markup registered up front. -/
structure FixedTemplates where
  entries : List (TemplateName × String) := []
deriving DecidableEq, Repr, Inhabited

namespace FixedTemplates

def empty : FixedTemplates := {}

/-- Register markup; the last registration of a name counts. -/
def register (templates : FixedTemplates) (name : TemplateName) (markup : String) :
    FixedTemplates :=
  ⟨(name, markup) :: templates.entries⟩

def resolve (templates : FixedTemplates) : Resolver := fun name =>
  match templates.entries.lookup name with
  | some markup => .ok markup
  | none => .error (.templateNotFound name.url)

theorem resolve_register (templates : FixedTemplates) (name : TemplateName) (markup : String)
    (other : TemplateName) :
    (templates.register name markup).resolve other =
      if other = name then .ok markup else templates.resolve other := by
  by_cases h : other = name
  · simp [register, resolve, h]
  · simp [register, resolve, h, List.lookup_cons, beq_false_of_ne h]

end FixedTemplates

end ConsoleView
