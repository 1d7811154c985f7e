/-
# ConsoleView.Proofs.Preview.Guarded -- rendering with every step that could fail

A name is looked up in the table of components.  Then the variant of a link and
the view of a static component are looked up once more by the component, and the
instance grid is mounted into a document; each of these could fail.
`renderGuarded` is rendering with all of these steps.  The table and the kinds of
components agree, so the second look-ups find what they look for, and rendering
is reading the inputs and then finishing the draft (`renderGuarded_eq`,
`render_of_resolved`).
-/
import ConsoleView.Preview.Render

namespace ConsoleView

set_option autoImplicit false

open Json

/-! ## Names -/

/-- A name means a component exactly if its normal form is in the table. -/
theorem resolveName_eq_none_iff {name : String} :
    resolveName name = none ↔ ∀ d ∈ registry, d.name ≠ normalizeName name := by
  rw [resolveName, Option.or_eq_none_iff, lookup, lookup, List.find?_eq_none, List.find?_eq_none]
  simp only [Bool.and_eq_true, beq_iff_eq, not_and]
  constructor
  · rintro ⟨noTag, noClass⟩ d member
    cases usage : d.usage with
    | element => exact noTag d member usage
    | className => exact noClass d member usage
  · exact fun foreign => ⟨fun d member _ => foreign d member, fun d member _ => foreign d member⟩

theorem mem_of_resolveName {name : String} {d : Descriptor} (found : resolveName name = some d) :
    d ∈ registry := by
  rcases Option.or_eq_some_iff.1 found with tag | ⟨-, marker⟩
  · exact (mem_of_lookup tag).1
  · exact (mem_of_lookup marker).1

/-- A row of the table is the descriptor of its component. -/
theorem descriptor_of_mem {d : Descriptor} (member : d ∈ registry) :
    d = d.component.descriptor := by
  obtain ⟨c, -, rfl⟩ := List.mem_map.1 member
  rfl

/-- A component that is found is drafted, and the draft is finished. -/
theorem render_of_resolved {name : String} {c : Component}
    (found : resolveName name = some c.descriptor) (fixture : Scope) (settings : Settings)
    (resolve : Resolver) :
    render name fixture settings resolve =
      draftComponent c fixture settings >>= Draft.finish resolve := by
  have drawn : draft name fixture settings = draftComponent c fixture settings := by
    rw [draft, found]
    rfl
  rw [render, drawn]
  cases draftComponent c fixture settings <;> rfl

/-- A draft that awaits a template is finished if the template can be had. -/
theorem finish_awaiting (resolve : Resolver) (component : String) (view : TemplateView) :
    (Draft.awaiting component view).finish resolve =
      (resolve view.template).map fun content =>
        .template component view.template.url content view.scope.toJson := by
  rw [Draft.finish, TemplateView.render, bindTemplate]
  cases resolve view.template <;> rfl

/-! ## The guards -/

/-- The variant of links that a component stands for, or the error of a name that means nothing. -/
def requireVariant (name : String) (component : Component) : Except ViewError LinkVariant :=
  match LinkVariant.ofComponent? component with
  | some v => .ok v
  | none => .error (.unknownComponent name)

/-- The static view that a component is, or the error of a name that means nothing. -/
def requireStatic (name : String) (component : Component) : Except ViewError StaticView :=
  match StaticView.ofComponent? component with
  | some v => .ok v
  | none => .error (.unknownComponent name)

theorem requireVariant_component (name : String) (v : LinkVariant) :
    requireVariant name v.component = .ok v := by
  rw [requireVariant, LinkVariant.ofComponent?_component]

/-- Render the component of a descriptor that was found under `name`. -/
def renderFound (name : String) (d : Descriptor) (fixture : Scope) (settings : Settings)
    (resolve : Resolver) : Except ViewError PreviewOutput :=
  let delegate (view : TemplateView) : Except ViewError PreviewOutput := do
    return templateOutput d.name (← view.render resolve)
  match d.component with
  | .roleLink | .roleEnvLink | .jobLink | .taskLink => do
      let v ← requireVariant name d.component
      let target ← LinkTarget.codec.decode fixture.toJson
      return .markup d.name (linkAnchor settings.links v target).toMarkup.html
  | .breadcrumb | .error | .taskSandboxLink => do
      let view ← requireStatic name d.component
      delegate (view.inContext fixture)
  | .taskStatus => return .behavior d.name ({} : TaskStatus).scope.toJson
  | .schedulingDetail => return .marker d.name
  | .groupSummary => do
      let groups ← inputOr fixture "groups" (.list ConfigGroup.codec) []
      let initial ← inputOr fixture "visibleGroups" (.option (.list .index)) none
      delegate (groupSummary groups (.seeded initial))
  | .configSummary => do
      let group ← inputOr fixture "group" ConfigGroup.codec {}
      delegate (configSummary group)
  | .timeDisplay => do
      let timestamp ← inputOr fixture "timestamp" Timestamp.codec {}
      delegate (timeDisplay timestamp)
  | .updateSettings => do
      let update ← inputOr fixture "update" UpdateSettings.codec {}
      delegate (updateSummary update)
  | .instanceSummary => do
      let inputs ← InstanceInputs.ofScope fixture
      let (page, anchor) := Document.blank.createAnchor "instance-summary"
      let (result, _, page) := ({ inputs } : InstanceSummary).mount page anchor
      let _ ← result
      return .markup d.name (page.html anchor)

/-- Rendering with each step that could fail. -/
def renderGuarded (name : String) (fixture : Scope) (settings : Settings) (resolve : Resolver) :
    Except ViewError PreviewOutput :=
  match (lookup name .element).or (lookup name .className) with
  | none => .error (.unknownComponent name)
  | some d => renderFound name d fixture settings resolve

theorem renderFound_eq (name : String) (c : Component) (fixture : Scope) (settings : Settings)
    (resolve : Resolver) :
    renderFound name c.descriptor fixture settings resolve =
      draftComponent c fixture settings >>= Draft.finish resolve := by
  have link : ∀ v : LinkVariant,
      (do let v ← requireVariant name v.component
          let target ← LinkTarget.codec.decode fixture.toJson
          return PreviewOutput.markup v.component.name
            (linkAnchor settings.links v target).toMarkup.html) =
        draftLink v.component v fixture settings >>= Draft.finish resolve := fun v => by
    rw [requireVariant_component, draftLink]
    cases LinkTarget.codec.decode fixture.toJson <;> rfl
  have delegate : ∀ (component : String) (view : TemplateView),
      (do return templateOutput component (← view.render resolve)) =
        (Draft.awaiting component view).finish resolve := fun component view => by
    rw [Draft.finish]
    cases view.render resolve <;> rfl
  have typed : ∀ {α : Type} (input : Except ViewError α) (component : String)
      (view : α → TemplateView),
      (do let a ← input
          return templateOutput component (← (view a).render resolve)) =
        (do return Draft.awaiting component (view (← input))) >>= Draft.finish resolve :=
    fun input component view => by
      cases input with
      | error e => rfl
      | ok a => exact delegate component (view a)
  cases c with
  | roleLink => exact link .role
  | roleEnvLink => exact link .roleEnv
  | jobLink => exact link .job
  | taskLink => exact link .task
  | breadcrumb => exact delegate _ (StaticView.breadcrumb.inContext fixture)
  | error => exact delegate _ (StaticView.errorPanel.inContext fixture)
  | taskSandboxLink => exact delegate _ (StaticView.taskSandboxLink.inContext fixture)
  | taskStatus | schedulingDetail => rfl
  | groupSummary =>
      simp only [renderFound, draftComponent, draftGroups]
      cases inputOr fixture "groups" (.list ConfigGroup.codec) [] with
      | error e => rfl
      | ok groups =>
          cases inputOr fixture "visibleGroups" (.option (.list .index)) none with
          | error e => rfl
          | ok initial => exact delegate _ (groupSummary groups (.seeded initial))
  | configSummary => exact typed (inputOr fixture "group" ConfigGroup.codec {}) _ configSummary
  | timeDisplay => exact typed (inputOr fixture "timestamp" Timestamp.codec {}) _ timeDisplay
  | updateSettings => exact typed (inputOr fixture "update" UpdateSettings.codec {}) _ updateSummary
  | instanceSummary =>
      simp only [renderFound, draftComponent, draftInstances]
      cases InstanceInputs.ofScope fixture with
      | error e => rfl
      | ok inputs =>
          let page := (Document.blank.createAnchor "instance-summary").1
          let anchor := (Document.blank.createAnchor "instance-summary").2
          rcases outcome : ({ inputs } : InstanceSummary).mount page anchor with ⟨result, s, later⟩
          simp only [bind, Except.bind, page, anchor] at outcome ⊢
          rw [outcome]
          cases result <;> rfl

/-- **The guards change nothing.** -/
theorem renderGuarded_eq (name : String) (fixture : Scope) (settings : Settings)
    (resolve : Resolver) :
    renderGuarded name fixture settings resolve = render name fixture settings resolve := by
  rw [renderGuarded, ← resolveName]
  cases found : resolveName name with
  | none => rw [render, draft, found]
  | some d =>
      have row : d = d.component.descriptor := descriptor_of_mem (mem_of_resolveName found)
      rw [row] at found ⊢
      exact (renderFound_eq name d.component fixture settings resolve).trans
        (render_of_resolved found fixture settings resolve).symm

end ConsoleView
