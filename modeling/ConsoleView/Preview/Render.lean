/-
# ConsoleView.Preview.Render -- one component rendered from its data

The fixture is the data a host page would have: the context of links and static
components, the named inputs of the others.  Rendering has two steps.  `draft`
reads the fixture and does everything that needs no template; what it leaves
open is a template's markup, asked for by name once and put in by `finish`.
So rendering is the same whether templates come from memory or from files; of
the disk a component looks at one template at most, once its inputs are read.
-/
import ConsoleView.Component.InstanceSummary
import ConsoleView.Component.Link
import ConsoleView.Component.TemplateView
import ConsoleView.Preview.Output
import ConsoleView.Registry.Lookup
import ConsoleView.Settings.File
import ConsoleView.Template.Files

namespace ConsoleView

set_option autoImplicit false

open Json

/-! ## Inputs -/

/-- A typed input; one that is unbound or `null` has its default. -/
def inputOr {α : Type} (fixture : Scope) (name : String) (codec : Codec α) (default : α) :
    Except ViewError α :=
  match fixture.get? name with
  | none | some .null => .ok default
  | some j => codec.decode j

/-! ## Drafts -/

/-- A rendering up to its template. -/
inductive Draft where
  | ready (output : PreviewOutput)
  | awaiting (component : String) (view : TemplateView)

def draftLink (component : Component) (v : LinkVariant) (fixture : Scope)
    (settings : Settings) : Except ViewError Draft := do
  let target ← LinkTarget.codec.decode fixture.toJson
  return .ready (.markup component.name (linkAnchor settings.links v target).toMarkup.html)

def draftGroups (fixture : Scope) : Except ViewError TemplateView := do
  let groups ← inputOr fixture "groups" (.list ConfigGroup.codec) []
  let initial ← inputOr fixture "visibleGroups" (.option (.list .index)) none
  return groupSummary groups (.seeded initial)

/-- The draft of the instance grid, mounted into a document of its own. -/
def draftInstances (fixture : Scope) : Except ViewError Draft := do
  let inputs ← InstanceInputs.ofScope fixture
  let (d, anchor) := Document.blank.createAnchor "instance-summary"
  let (result, _, d) := ({ inputs } : InstanceSummary).mount d anchor
  let _ ← result
  return .ready (.markup Component.instanceSummary.name (d.html anchor))

def draftComponent (component : Component) (fixture : Scope) (settings : Settings) :
    Except ViewError Draft :=
  let awaiting (view : TemplateView) : Draft := .awaiting component.name view
  match component with
  | .roleLink => draftLink component .role fixture settings
  | .roleEnvLink => draftLink component .roleEnv fixture settings
  | .jobLink => draftLink component .job fixture settings
  | .taskLink => draftLink component .task fixture settings
  | .breadcrumb => .ok (awaiting (StaticView.breadcrumb.inContext fixture))
  | .error => .ok (awaiting (StaticView.errorPanel.inContext fixture))
  | .taskSandboxLink => .ok (awaiting (StaticView.taskSandboxLink.inContext fixture))
  | .taskStatus => .ok (.ready (.behavior component.name ({} : TaskStatus).scope.toJson))
  | .schedulingDetail => .ok (.ready (.marker component.name))
  | .groupSummary => return awaiting (← draftGroups fixture)
  | .configSummary =>
      return awaiting (configSummary (← inputOr fixture "group" ConfigGroup.codec {}))
  | .timeDisplay =>
      return awaiting (timeDisplay (← inputOr fixture "timestamp" Timestamp.codec {}))
  | .updateSettings =>
      return awaiting (updateSummary (← inputOr fixture "update" UpdateSettings.codec {}))
  | .instanceSummary => draftInstances fixture

/-- The draft of the component that a host finds under `name`, as a tag or else as a class. -/
def draft (name : String) (fixture : Scope) (settings : Settings) : Except ViewError Draft :=
  match resolveName name with
  | none => .error (.unknownComponent name)
  | some d => draftComponent d.component fixture settings

/-- The output once the template has been resolved. -/
def templateOutput (component : String) (binding : TemplateBinding) : PreviewOutput :=
  .template component binding.template.url binding.markup binding.scope.toJson

def Draft.finish (resolve : Resolver) : Draft → Except ViewError PreviewOutput
  | .ready output => .ok output
  | .awaiting component view => templateOutput component <$> view.render resolve

def Draft.template? : Draft → Option TemplateName
  | .ready _ => none
  | .awaiting _ view => some view.template

/-- A draft looks at the answer for its own template only. -/
theorem Draft.finish_congr {d : Draft} {resolve other : Resolver}
    (same : ∀ name, d.template? = some name → resolve name = other name) :
    d.finish resolve = d.finish other := by
  cases d with
  | ready _ => rfl
  | awaiting component view => simp [finish, TemplateView.render, bindTemplate, same _ rfl]

/-! ## Rendering -/

/-- Render the component that a host finds under `name`. -/
def render (name : String) (fixture : Scope) (settings : Settings) (resolve : Resolver) :
    Except ViewError PreviewOutput :=
  match draft name fixture settings with
  | .error e => .error e
  | .ok d => d.finish resolve

/-- A recoverable error becomes the output of a placeholder, any other stays. -/
def orPlaceholder (name : String) :
    Except ViewError PreviewOutput → Except ViewError PreviewOutput
  | .ok output => .ok output
  | .error e =>
      if e.isRecoverable then
        .ok (.error name e.message (placeholder name e.message).toMarkup.html)
      else .error e

/-- Render a component, or a placeholder if only this component fails. -/
def renderOrPlaceholder (name : String) (fixture : Scope) (settings : Settings)
    (resolve : Resolver) : Except ViewError PreviewOutput :=
  orPlaceholder name (render name fixture settings resolve)

/-! ## Templates from files -/

def configuredTemplates (dir : String) (settings : Settings) : FileTemplates :=
  let root := templateRoot dir settings
  if settings.templates.cache then .cached root else .uncached root

variable {m : Type → Type} [Monad m]

def renderFromFiles (disk : Disk m) (templates : FileTemplates) (name : String)
    (fixture : Scope) (settings : Settings) :
    m (Except ViewError PreviewOutput × FileTemplates) := do
  match draft name fixture settings with
  | .error e => return (.error e, templates)
  | .ok (.ready output) => return (.ok output, templates)
  | .ok (.awaiting component view) =>
      let (answer, templates) ← FileTemplates.resolve disk templates view.template
      return ((Draft.awaiting component view).finish fun _ => answer, templates)

end ConsoleView
