/-
# ConsoleView.Registry.Table -- every component and how it is used

Each component has one descriptor: its name, whether it stands as a tag or as a
class, its named inputs, how it renders, and whether it takes the place of its
anchor or fills it.
-/
import ConsoleView.Scope
import ConsoleView.Template.Name

namespace ConsoleView

set_option autoImplicit false

inductive Component where
  | roleLink
  | roleEnvLink
  | jobLink
  | taskLink
  | breadcrumb
  | error
  | taskSandboxLink
  | taskStatus
  | schedulingDetail
  | groupSummary
  | configSummary
  | timeDisplay
  | updateSettings
  | instanceSummary
deriving DecidableEq, Repr, Inhabited

/-- Where a component stands in the markup of its host. -/
inductive Usage where
  /-- As a tag of its own. -/
  | element
  /-- As a class of another element. -/
  | className
deriving DecidableEq, Repr, Inhabited

inductive Rendering where
  /-- It makes the markup from the bound value. -/
  | inline
  /-- It delegates to a template. -/
  | template (name : TemplateName)
  /-- It builds the markup into the host's document. -/
  | builder
  /-- It adds behaviour to the contents that are there. -/
  | behavior
  /-- It only marks an element. -/
  | marker
deriving DecidableEq, Repr, Inhabited

structure Input where
  name : String
  required : Bool
deriving DecidableEq, Repr, Inhabited

structure Descriptor where
  component : Component
  name : String
  usage : Usage
  /-- Without inputs a component reads the context it stands in. -/
  inputs : List Input
  rendering : Rendering
  /-- Whether the output takes the place of the anchor. -/
  replaces : Bool
deriving DecidableEq, Repr, Inhabited

namespace Descriptor

def template? (d : Descriptor) : Option TemplateName :=
  match d.rendering with
  | .template name => some name
  | _ => none

/-- Whether the component sees its inputs only. -/
def isIsolated (d : Descriptor) : Bool := !d.inputs.isEmpty

/-- The required inputs that a scope does not bind. -/
def missingInputs (d : Descriptor) (scope : Scope) : List String :=
  (d.inputs.filter fun input => input.required && !scope.contains input.name).map Input.name

end Descriptor

namespace Component

def all : List Component :=
  [roleLink, roleEnvLink, jobLink, taskLink, breadcrumb, error, taskSandboxLink, taskStatus,
   schedulingDetail, groupSummary, configSummary, timeDisplay, updateSettings, instanceSummary]

theorem mem_all (c : Component) : c ∈ all := by cases c <;> decide

def name : Component → String
  | roleLink => "roleLink"
  | roleEnvLink => "roleEnvLink"
  | jobLink => "jobLink"
  | taskLink => "taskLink"
  | breadcrumb => "breadcrumb"
  | error => "error"
  | taskSandboxLink => "taskSandboxLink"
  | taskStatus => "taskStatus"
  | schedulingDetail => "schedulingDetail"
  | groupSummary => "groupSummary"
  | configSummary => "configSummary"
  | timeDisplay => "timeDisplay"
  | updateSettings => "updateSettings"
  | instanceSummary => "instanceSummary"

def usage : Component → Usage
  | roleLink | roleEnvLink | jobLink | taskLink | schedulingDetail => .className
  | _ => .element

def required (name : String) : Input := ⟨name, true⟩

def optional (name : String) : Input := ⟨name, false⟩

def inputs : Component → List Input
  | groupSummary => [required "groups", optional "visibleGroups"]
  | configSummary => [required "group"]
  | timeDisplay => [required "timestamp"]
  | updateSettings => [required "update"]
  | instanceSummary => [required "instances", optional "size", optional "stats"]
  | _ => []

def rendering : Component → Rendering
  | roleLink | roleEnvLink | jobLink | taskLink => .inline
  | breadcrumb => .template .breadcrumb
  | error => .template .error
  | taskSandboxLink => .template .taskSandbox
  | taskStatus => .behavior
  | schedulingDetail => .marker
  | groupSummary => .template .groupSummary
  | configSummary => .template .configSummary
  | timeDisplay => .template .timeDisplay
  | updateSettings => .template .updateSettings
  | instanceSummary => .builder

def replaces : Component → Bool
  | taskStatus | groupSummary | configSummary => true
  | _ => false

def descriptor (c : Component) : Descriptor where
  component := c
  name := c.name
  usage := c.usage
  inputs := c.inputs
  rendering := c.rendering
  replaces := c.replaces

def position (c : Component) : Nat := all.idxOf c

end Component

def registry : List Descriptor := Component.all.map Component.descriptor

theorem registry_position (c : Component) : registry[c.position]? = some c.descriptor := by
  cases c <;> decide

end ConsoleView
