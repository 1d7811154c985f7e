/-
# ConsoleView.Proofs.Preview.Inputs -- what a component reads of its data

The table declares the inputs of each component; the component itself reads the
fixture name by name.  Most names are read leniently: to be unbound is to be
`null`.  The value of a link and the list of instances are read as they are
bound.  Two fixtures that agree on these names give the same draft
(`draftComponent_congr`), whatever else they bind.  So a component with inputs
of its own sees its inputs only, and what it shows depends on nothing else; the
static components pass on the whole of their context (`render_isolated`).
-/
import ConsoleView.Proofs.Json.Record
import ConsoleView.Proofs.Preview.Guarded

namespace ConsoleView

set_option autoImplicit false

open Json

/-! ## Reading leniently -/

/-- What a scope binds to a name, `null` if it binds nothing. -/
def Scope.orNull (scope : Scope) (name : String) : Json := (scope.get? name).getD .null

theorem inputOr_eq {α : Type} (fixture : Scope) (name : String) (codec : Codec α) (default : α) :
    inputOr fixture name codec default =
      if (fixture.orNull name).isNull then .ok default else codec.decode (fixture.orNull name) := by
  rw [inputOr, Scope.orNull]
  cases fixture.get? name with
  | none => rfl
  | some j => cases j <;> rfl

theorem sizeToken_eq (scope : Scope) :
    sizeToken (scope.get? "size") = sizeToken (some (scope.orNull "size")) := by
  rw [Scope.orNull]
  cases scope.get? "size" <;> rfl

theorem statsFrom_eq (scope : Scope) :
    InstanceInputs.statsFrom scope = inputOr scope "stats" InstanceStats.codec {} := rfl

/-! ## Links -/

theorem plain_linkTarget : LinkTarget.shape.Plain where
  distinct := by decide
  single := by simp [LinkTarget.shape, Field.of]

/-- The role and the environment of the row that a link stands in. -/
def linkContext (scope : Scope) : Except Mismatch (Option String × Option String) := do
  let environment ← (Codec.option .string).read (scope.orNull "environment")
  let role ← (Codec.option .string).read (scope.orNull "role")
  return (role, environment)

/-- A link target is read name by name. -/
theorem read_linkTarget (scope : Scope) :
    LinkTarget.codec.read scope.toJson = (do
      let (role, environment) ← linkContext scope
      let value ← Codec.string.readOr "" (scope.get? "value")
      return { value, role, environment }) := by
  have order : LinkTarget.shape.byName = [
      Field.of "environment" (.option .string) LinkTarget.environment
        fun t environment => { t with environment },
      Field.of "role" (.option .string) LinkTarget.role fun t role => { t with role },
      Field.of "value" Codec.string LinkTarget.value fun t value => { t with value }] := by
    simp [RecordShape.byName, LinkTarget.shape, List.insertionSort, List.orderedInsert]
  have optional : LinkTarget.shape.missing? scope.values.entries = none := rfl
  show LinkTarget.shape.read (.object scope.values.entries) = _
  rw [plain_linkTarget.read_object scope.values.ascending, order, optional]
  rw [linkContext, Scope.orNull, Scope.orNull, ← Codec.readOr_option, ← Codec.readOr_option]
  simp only [List.foldlM_cons, List.foldlM_nil, putBound_of]
  show (Except.bind (((Codec.option .string).readOr none (scope.get? "environment")).map _)
    _).bind _ = _
  cases (Codec.option .string).readOr none (scope.get? "environment") with
  | error mismatch => rfl
  | ok environment =>
      show (Except.bind (((Codec.option .string).readOr none (scope.get? "role")).map _)
        _).bind _ = _
      cases (Codec.option .string).readOr none (scope.get? "role") with
      | error mismatch => rfl
      | ok role =>
          show (Except.bind ((Codec.string.readOr "" (scope.get? "value")).map _) _).bind _ = _
          cases Codec.string.readOr "" (scope.get? "value") <;> rfl

/-! ## Components -/

namespace Component

/-- The names whose values a component reads as they are bound. -/
def exactInputs : Component → List String
  | roleLink | roleEnvLink | jobLink | taskLink => ["value"]
  | instanceSummary => ["instances"]
  | _ => []

/-- The names that a component reads leniently. -/
def lenientInputs : Component → List String
  | roleLink | roleEnvLink | jobLink | taskLink => ["role", "environment"]
  | groupSummary => ["groups", "visibleGroups"]
  | configSummary => ["group"]
  | timeDisplay => ["timestamp"]
  | updateSettings => ["update"]
  | instanceSummary => ["size", "stats"]
  | _ => []

/-- Two fixtures agree on what a component reads. -/
structure Agree (c : Component) (fixture other : Scope) : Prop where
  asBound : ∀ name ∈ c.exactInputs, fixture.get? name = other.get? name
  orNull : ∀ name ∈ c.lenientInputs, fixture.orNull name = other.orNull name

/-- Fixtures that bind the names alike agree on them. -/
theorem agree_of_get? {c : Component} {fixture other : Scope}
    (same : ∀ name ∈ c.exactInputs ++ c.lenientInputs, fixture.get? name = other.get? name) :
    c.Agree fixture other where
  asBound name member := same name (List.mem_append_left _ member)
  orNull name member := by
    rw [Scope.orNull, Scope.orNull, same name (List.mem_append_right _ member)]

/-- A component with inputs of its own reads the inputs that the table declares for it. -/
theorem inputs_of_isIsolated {c : Component} (isolated : c.descriptor.isIsolated = true) :
    c.exactInputs ++ c.lenientInputs = c.inputs.map Input.name := by
  cases c with
  | groupSummary | configSummary | timeDisplay | updateSettings | instanceSummary => rfl
  | _ => cases isolated

end Component

section Agree

variable {fixture other : Scope}

theorem inputOr_congr {name : String} (same : fixture.orNull name = other.orNull name) {α : Type}
    (codec : Codec α) (default : α) :
    inputOr fixture name codec default = inputOr other name codec default := by
  rw [inputOr_eq, inputOr_eq, same]

theorem linkContext_congr (role : fixture.orNull "role" = other.orNull "role")
    (environment : fixture.orNull "environment" = other.orNull "environment") :
    linkContext fixture = linkContext other := by
  rw [linkContext, linkContext, role, environment]

theorem draftLink_congr (value : fixture.get? "value" = other.get? "value")
    (role : fixture.orNull "role" = other.orNull "role")
    (environment : fixture.orNull "environment" = other.orNull "environment")
    (component : Component) (v : LinkVariant) (settings : Settings) :
    draftLink component v fixture settings = draftLink component v other settings := by
  have target : LinkTarget.codec.decode fixture.toJson = LinkTarget.codec.decode other.toJson := by
    rw [Codec.decode, Codec.decode, read_linkTarget, read_linkTarget, value,
      linkContext_congr role environment]
  rw [draftLink, draftLink, target]

theorem draftGroups_congr (groups : fixture.orNull "groups" = other.orNull "groups")
    (visible : fixture.orNull "visibleGroups" = other.orNull "visibleGroups") :
    draftGroups fixture = draftGroups other := by
  rw [draftGroups, draftGroups, inputOr_congr groups, inputOr_congr visible]

theorem ofScope_congr (instances : fixture.get? "instances" = other.get? "instances")
    (size : fixture.orNull "size" = other.orNull "size")
    (stats : fixture.orNull "stats" = other.orNull "stats") :
    InstanceInputs.ofScope fixture = InstanceInputs.ofScope other := by
  have bound : fixture.contains "instances" = other.contains "instances" :=
    congrArg Option.isSome instances
  have missing : Component.instanceSummary.descriptor.missingInputs fixture =
      Component.instanceSummary.descriptor.missingInputs other := by
    refine congrArg (List.map Input.name) (List.filter_congr fun input member => ?_)
    cases required : input.required with
    | false => rfl
    | true =>
        have named : input.name = "instances" := by
          revert required
          revert input
          decide
        rw [named, bound]
  rw [InstanceInputs.ofScope, InstanceInputs.ofScope, missing, instances, sizeToken_eq fixture,
    sizeToken_eq other, size, statsFrom_eq, statsFrom_eq, inputOr_congr stats]

end Agree

/-- A component other than a static one reads its inputs and nothing else. -/
theorem draftComponent_congr {c : Component} (own : StaticView.ofComponent? c = none)
    {fixture other : Scope} (agree : c.Agree fixture other) (settings : Settings) :
    draftComponent c fixture settings = draftComponent c other settings := by
  obtain ⟨asBound, orNull⟩ := agree
  cases c with
  | breadcrumb | error | taskSandboxLink => cases own
  | taskStatus | schedulingDetail => rfl
  | roleLink | roleEnvLink | jobLink | taskLink =>
      exact draftLink_congr (asBound "value" (by decide)) (orNull "role" (by decide))
        (orNull "environment" (by decide)) _ _ settings
  | groupSummary =>
      have drafted := draftGroups_congr (orNull "groups" (by decide))
        (orNull "visibleGroups" (by decide))
      simp only [draftComponent, drafted]
  | configSummary => simp only [draftComponent, inputOr_congr (orNull "group" (by decide))]
  | timeDisplay => simp only [draftComponent, inputOr_congr (orNull "timestamp" (by decide))]
  | updateSettings => simp only [draftComponent, inputOr_congr (orNull "update" (by decide))]
  | instanceSummary =>
      have inputs := ofScope_congr (asBound "instances" (by decide)) (orNull "size" (by decide))
        (orNull "stats" (by decide))
      simp only [draftComponent, draftInstances, inputs]

theorem render_congr {name : String} {c : Component}
    (found : resolveName name = some c.descriptor) (own : StaticView.ofComponent? c = none)
    {fixture other : Scope} (agree : c.Agree fixture other) (settings : Settings)
    (resolve : Resolver) :
    render name fixture settings resolve = render name other settings resolve := by
  rw [render_of_resolved found, render_of_resolved found, draftComponent_congr own agree]

/-! ## Isolation -/

theorem draftComponent_static (v : StaticView) (fixture : Scope) (settings : Settings) :
    draftComponent v.component fixture settings =
      .ok (.awaiting v.component.name (v.inContext fixture)) := by
  cases v <;> rfl

/-- **What a component sees.**  Each row of the table is found under its name.  Two fixtures that
bind the declared inputs of a component with inputs of its own alike, and anything else to the other
names, are rendered alike, and fail alike; so are two that bind the value, the role and the
environment of a link alike; a task status and a scheduling detail are rendered alike from any two.
A static component passes on the whole fixture as it is. -/
theorem render_isolated (settings : Settings) (resolve : Resolver) :
    (∀ d ∈ registry, resolveName d.name = some d) ∧
    (∀ name, ∀ d ∈ registry, resolveName name = some d → d.isIsolated = true →
      ∀ fixture other : Scope,
        (∀ input ∈ d.inputs, fixture.get? input.name = other.get? input.name) →
        render name fixture settings resolve = render name other settings resolve) ∧
    (∀ name, ∀ v : LinkVariant, resolveName name = some v.component.descriptor →
      ∀ fixture other : Scope,
        (∀ input ∈ ["value", "role", "environment"], fixture.get? input = other.get? input) →
        render name fixture settings resolve = render name other settings resolve) ∧
    (∀ name, ∀ c ∈ [Component.taskStatus, .schedulingDetail],
      resolveName name = some c.descriptor → ∀ fixture other : Scope,
        render name fixture settings resolve = render name other settings resolve) ∧
    (∀ name, ∀ v : StaticView, resolveName name = some v.component.descriptor →
      ∀ fixture output, render name fixture settings resolve = .ok output →
        ∃ content, resolve v.template = .ok content ∧
          output = .template v.component.name v.template.url content fixture.toJson) := by
  refine ⟨by decide +kernel, ?_, ?_, ?_, ?_⟩
  · intro name d member found isolated fixture other same
    obtain ⟨c, -, rfl⟩ := List.mem_map.1 member
    have own : StaticView.ofComponent? c = none := by
      cases c with
      | breadcrumb | error | taskSandboxLink => cases isolated
      | _ => rfl
    refine render_congr found own (Component.agree_of_get? fun name read => ?_) settings resolve
    rw [Component.inputs_of_isIsolated isolated] at read
    obtain ⟨input, declared, rfl⟩ := List.mem_map.1 read
    exact same input declared
  · intro name v found fixture other same
    refine render_congr found (by cases v <;> rfl)
      (Component.agree_of_get? fun name read => same name ?_) settings resolve
    cases v <;> exact read
  · intro name c member found fixture other
    have nothing : c.exactInputs ++ c.lenientInputs = [] ∧ StaticView.ofComponent? c = none := by
      rcases List.mem_pair.1 member with rfl | rfl <;> exact ⟨rfl, rfl⟩
    refine render_congr found nothing.2 (Component.agree_of_get? fun name read => ?_) settings
      resolve
    rw [nothing.1] at read
    cases read
  · intro name v found fixture output rendered
    have finished : render name fixture settings resolve =
        (resolve v.template).map fun content =>
          .template v.component.name v.template.url content fixture.toJson := by
      rw [render_of_resolved found, draftComponent_static]
      exact finish_awaiting resolve _ (v.inContext fixture)
    rw [finished] at rendered
    obtain ⟨content, resolved, same⟩ := ok_of_map rendered
    exact ⟨content, resolved, same.symm⟩

/-- A user's name beside a timestamp or beside a link does not show, and a task status shows nothing
of a page; a breadcrumb passes the user's name on. -/
theorem isolated_from_user :
    let user := Scope.empty.insert "user" (.string "ada")
    let templates := FixedTemplates.empty.register .breadcrumb "<ol></ol>"
    (∀ resolve,
      render "time-display" (user.insert "timestamp" (.int 0)) {} resolve =
          render "time-display" (Scope.empty.insert "timestamp" (.int 0)) {} resolve ∧
        render "job-link" (user.insert "value" (.string "web")) {} resolve =
          render "job-link" (Scope.empty.insert "value" (.string "web")) {} resolve ∧
        render "task-status" user {} resolve = render "task-status" .empty {} resolve) ∧
      ∃ output, render "breadcrumb" user {} templates.resolve = .ok output ∧
        output = .template "breadcrumb" "/breadcrumb.html" "<ol></ol>" user.toJson := by
  intro user templates
  refine ⟨fun resolve => ?_, ?_⟩
  · obtain ⟨-, isolated, links, blind, -⟩ := render_isolated {} resolve
    have others : ∀ (name input : String) (j : Json), input ≠ "user" →
        (user.insert name j).get? input = (Scope.empty.insert name j).get? input :=
      fun name input j other => by
        rw [Scope.get?_insert, Scope.get?_insert, Scope.get?_insert, if_neg other]
    refine ⟨?_, ?_, ?_⟩
    · exact isolated "time-display" Component.timeDisplay.descriptor (by decide)
        (by decide +kernel) rfl _ _ fun input declared =>
          others _ input.name _ (by revert declared; revert input; decide)
    · exact links "job-link" .job (by decide +kernel) _ _ fun input declared =>
        others _ input _ (by revert declared; revert input; decide)
    · exact blind "task-status" .taskStatus (by decide) (by decide +kernel) _ _
  · obtain ⟨-, -, -, -, static⟩ := render_isolated {} templates.resolve
    have found : resolveName "breadcrumb" = some Component.breadcrumb.descriptor := by
      decide +kernel
    obtain ⟨output, rendered⟩ : ∃ output, render "breadcrumb" user {} templates.resolve =
        .ok output := ⟨_, by rw [render_of_resolved found]; rfl⟩
    obtain ⟨content, resolved, same⟩ := static "breadcrumb" .breadcrumb found user output rendered
    obtain rfl : "<ol></ol>" = content := Except.ok.inj resolved
    exact ⟨output, rendered, same⟩

end ConsoleView
