/-
# ConsoleView.Component.TemplateView -- components that delegate to a template

Such a component is its template and the scope the template is rendered
against.  Some build the scope from typed inputs; the static ones pass on the
context they stand in.  A task status has a scope only, for what the page has
put into its element.
-/
import ConsoleView.Component.GroupVisibility
import ConsoleView.Records.Updates
import ConsoleView.Registry.Table
import ConsoleView.Template.Resolver
import ConsoleView.Time.Timestamp

namespace ConsoleView

set_option autoImplicit false

open Json

/-- A component, its template, and the scope of the template. -/
structure TemplateView where
  component : Component
  template : TemplateName
  scope : Scope

def TemplateView.render (v : TemplateView) (resolve : Resolver) :
    Except ViewError TemplateBinding :=
  bindTemplate resolve v.template v.scope

/-! ## Views of typed inputs -/

/-- The groups and which of them are open. -/
def groupSummary (groups : List ConfigGroup) (visibility : GroupVisibility) : TemplateView where
  component := .groupSummary
  template := .groupSummary
  scope := (Scope.empty.bind "groups" (.list ConfigGroup.codec) groups).bind "visibleGroups"
    (.list .index) visibility.visible

def configSummary (group : ConfigGroup) : TemplateView where
  component := .configSummary
  template := .configSummary
  scope := Scope.empty.bind "group" ConfigGroup.codec group

/-- A timestamp, and its UTC text if it has one. -/
def timeDisplay (timestamp : Timestamp) : TemplateView where
  component := .timeDisplay
  template := .timeDisplay
  scope :=
    let scope := Scope.empty.bind "timestamp" Timestamp.codec timestamp
    match timestamp.utc? with
    | some utc => scope.bind "utc" .string utc
    | none => scope

def updateSummary (update : UpdateSettings) : TemplateView where
  component := .updateSettings
  template := .updateSettings
  scope := Scope.empty.bind "update" UpdateSettings.codec update

/-! ## Views of the context -/

/-- The components without inputs of their own. -/
inductive StaticView where
  | breadcrumb
  | errorPanel
  | taskSandboxLink
deriving DecidableEq, Repr, Inhabited

namespace StaticView

def all : List StaticView := [breadcrumb, errorPanel, taskSandboxLink]

def component : StaticView → Component
  | breadcrumb => .breadcrumb
  | errorPanel => .error
  | taskSandboxLink => .taskSandboxLink

def template : StaticView → TemplateName
  | breadcrumb => .breadcrumb
  | errorPanel => .error
  | taskSandboxLink => .taskSandbox

/-- The static view that is a component. -/
def ofComponent? (c : Component) : Option StaticView := all.find? fun v => v.component == c

def inContext (v : StaticView) (context : Scope) : TemplateView where
  component := v.component
  template := v.template
  scope := context

theorem template?_descriptor (v : StaticView) :
    v.component.descriptor.template? = some v.template := by
  cases v <;> rfl

end StaticView

/-! ## A scope without a template -/

/-- The state of one task status: at first the details are hidden. -/
structure TaskStatus where
  showDetails : Bool := false
deriving DecidableEq, Repr, Inhabited

namespace TaskStatus

def toggle (s : TaskStatus) : TaskStatus := { s with showDetails := !s.showDetails }

/-- What the contents of the element see. -/
def scope (s : TaskStatus) : Scope := Scope.empty.bind "showDetails" .bool s.showDetails

theorem toggle_toggle (s : TaskStatus) : s.toggle.toggle = s := by
  cases s; simp [toggle]

end TaskStatus

end ConsoleView
