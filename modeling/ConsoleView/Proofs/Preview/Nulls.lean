/-
# ConsoleView.Proofs.Preview.Nulls -- inputs bound to null and inputs left out

Most inputs may be missing, and to be bound to `null` is to be missing: a
fixture with some of its optional inputs set to `null` is rendered like the
fixture without them.  The value of a link is the exception.  It may be left
out, and it may not be `null`: such a link fails, unless it fails already by its
role or its environment (`render_withNulls`).
-/
import ConsoleView.Proofs.Preview.Inputs

namespace ConsoleView

set_option autoImplicit false

open Json

/-! ## Setting names to null, and leaving them out -/

/-- Of the entries that are kept by their names each is found as before. -/
theorem Entries.get?_filter {α : Type} (keep : String → Bool) (entries : Entries α)
    (name : String) :
    Entries.get? (entries.filter fun e => keep e.1) name =
      if keep name then Entries.get? entries name else none := by
  induction entries with
  | nil => simp [get?]
  | cons e rest ih =>
      obtain ⟨k, v⟩ := e
      rw [List.filter_cons, get?_cons]
      by_cases same : name = k
      · subst same
        cases kept : keep name <;> simp [get?_cons, ih, kept]
      · cases keep k <;> simp [get?_cons, ih, same]

namespace Scope

def withNulls (scope : Scope) (names : List String) : Scope :=
  names.foldl (fun scope name => scope.insert name .null) scope

def without (scope : Scope) (names : List String) : Scope where
  values :=
    { entries := scope.values.entries.filter fun e => !names.contains e.1
      ascending := scope.values.ascending.sublist (List.filter_sublist.map Prod.fst) }

variable (scope : Scope) (names : List String) (name : String)

theorem get?_withNulls :
    (scope.withNulls names).get? name = if name ∈ names then some .null else scope.get? name := by
  induction names generalizing scope with
  | nil => simp [withNulls]
  | cons first rest ih =>
      show ((scope.insert first .null).withNulls rest).get? name = _
      rw [ih, get?_insert]
      by_cases later : name ∈ rest <;> simp [later]

theorem get?_without :
    (scope.without names).get? name = if name ∈ names then none else scope.get? name := by
  show Entries.get? (scope.values.entries.filter fun e => !names.contains e.1) name = _
  rw [Entries.get?_filter fun name => !names.contains name]
  by_cases gone : name ∈ names <;> simp [gone, get?, NameMap.get?]

/-- What is read leniently is the same. -/
theorem orNull_withNulls :
    (scope.withNulls names).orNull name = (scope.without names).orNull name := by
  rw [orNull, orNull, get?_withNulls, get?_without]
  split <;> rfl

theorem withNulls_nil : scope.withNulls [] = scope.without [] :=
  ext_get? fun name => by rw [get?_withNulls, get?_without]; rfl

end Scope

/-! ## Optional inputs -/

namespace Component

/-- The inputs that may be missing: those of a link stand in its context, the groups, the group, the
timestamp and the update have defaults, and of the grid only the instances must be there. -/
def optionalInputs : Component → List String
  | roleLink | roleEnvLink | jobLink | taskLink => ["value", "role", "environment"]
  | groupSummary => ["groups", "visibleGroups"]
  | configSummary => ["group"]
  | timeDisplay => ["timestamp"]
  | updateSettings => ["update"]
  | instanceSummary => ["size", "stats"]
  | breadcrumb | error | taskSandboxLink | taskStatus | schedulingDetail => []

/-- Of the inputs that may be missing only the value of a link is read as it is bound. -/
theorem value_of_exact_optional {c : Component} {input : String} (exact : input ∈ c.exactInputs)
    (optional : input ∈ c.optionalInputs) : input = "value" := by
  cases c with
  | roleLink | roleEnvLink | jobLink | taskLink => exact List.mem_singleton.1 exact
  | instanceSummary =>
      obtain rfl := List.mem_singleton.1 exact
      exact absurd optional (by decide)
  | _ => cases exact

theorem link_of_value_optional {c : Component} (optional : "value" ∈ c.optionalInputs) :
    ∃ v : LinkVariant, v.component = c := by
  cases c with
  | roleLink => exact ⟨.role, rfl⟩
  | roleEnvLink => exact ⟨.roleEnv, rfl⟩
  | jobLink => exact ⟨.job, rfl⟩
  | taskLink => exact ⟨.task, rfl⟩
  | _ => exact absurd optional (by decide)

end Component

section Missing

variable {fixture : Scope}

/-- A name that is not bound, or is bound to `null`, is read leniently as `null`. -/
theorem Scope.orNull_of_missing {name : String}
    (missing : fixture.get? name = none ∨ fixture.get? name = some .null) :
    fixture.orNull name = .null := by
  rcases missing with unbound | null
  · rw [orNull, unbound]
    rfl
  · rw [orNull, null]
    rfl

theorem inputOr_of_missing {name : String} (missing : fixture.orNull name = .null) {α : Type}
    (codec : Codec α) (default : α) : inputOr fixture name codec default = .ok default := by
  rw [inputOr_eq, missing]
  rfl

theorem linkContext_of_missing (role : fixture.orNull "role" = .null)
    (environment : fixture.orNull "environment" = .null) :
    linkContext fixture = .ok (none, none) := by
  rw [linkContext, role, environment]
  rfl

end Missing

/-! ## Links -/

section Link

variable {name : String} {v : LinkVariant} {fixture : Scope}

/-- A link is shown if its role, its environment and its value can be read. -/
theorem render_link (found : resolveName name = some v.component.descriptor) (fixture : Scope)
    (settings : Settings) (resolve : Resolver) :
    render name fixture settings resolve =
      (LinkTarget.codec.decode fixture.toJson).map fun target =>
        .markup v.component.name (linkAnchor settings.links v target).toMarkup.html := by
  have drafted : draftComponent v.component fixture settings =
      draftLink v.component v fixture settings := by cases v <;> rfl
  rw [render_of_resolved found, drafted, draftLink]
  cases LinkTarget.codec.decode fixture.toJson <;> rfl

/-- A link without a value has the empty text. -/
theorem render_link_unbound (found : resolveName name = some v.component.descriptor)
    (unbound : fixture.get? "value" = none) (settings : Settings) (resolve : Resolver) :
    render name fixture settings resolve =
      match linkContext fixture with
      | .error mismatch => .error (.json mismatch)
      | .ok (role, environment) =>
          .ok (.markup v.component.name
            (linkAnchor settings.links v { role, environment }).toMarkup.html) := by
  rw [render_link found, Codec.decode, read_linkTarget, unbound]
  cases linkContext fixture <;> rfl

/-- A link does not take `null` for a text. -/
theorem render_link_null (found : resolveName name = some v.component.descriptor)
    (null : fixture.get? "value" = some .null) (settings : Settings) (resolve : Resolver) :
    render name fixture settings resolve =
      match linkContext fixture with
      | .error mismatch => .error (.json mismatch)
      | .ok _ => .error (.json (.wrongKind .null .string)) := by
  rw [render_link found, Codec.decode, read_linkTarget, null]
  cases linkContext fixture <;> rfl

theorem linkContext_withNulls (fixture : Scope) (chosen : List String) :
    linkContext (fixture.withNulls chosen) = linkContext (fixture.without chosen) :=
  linkContext_congr (fixture.orNull_withNulls chosen _) (fixture.orNull_withNulls chosen _)

/-- With its value among the names a link shows the empty text, or else it refuses `null`. -/
theorem render_link_withNulls (found : resolveName name = some v.component.descriptor)
    {chosen : List String} (value : "value" ∈ chosen) (fixture : Scope) (settings : Settings)
    (resolve : Resolver) :
    match linkContext (fixture.without chosen) with
    | .error mismatch =>
        render name (fixture.withNulls chosen) settings resolve = .error (.json mismatch) ∧
        render name (fixture.without chosen) settings resolve = .error (.json mismatch)
    | .ok (role, environment) =>
        render name (fixture.withNulls chosen) settings resolve =
          .error (.json (.wrongKind .null .string)) ∧
        render name (fixture.without chosen) settings resolve =
          .ok (.markup v.component.name
            (linkAnchor settings.links v { role, environment }).toMarkup.html) := by
  have null : (fixture.withNulls chosen).get? "value" = some .null := by
    rw [Scope.get?_withNulls, if_pos value]
  have unbound : (fixture.without chosen).get? "value" = none := by
    rw [Scope.get?_without, if_pos value]
  rw [render_link_null found null, render_link_unbound found unbound, linkContext_withNulls]
  cases linkContext (fixture.without chosen) <;> exact ⟨rfl, rfl⟩

end Link

/-! ## Rendering -/

/-- A template component whose inputs are missing waits for its template. -/
theorem draftComponent_of_missing {c : Component} {template : TemplateName}
    (delegates : c.descriptor.template? = some template) {fixture : Scope}
    (missing : ∀ input ∈ c.optionalInputs, fixture.orNull input = .null) (settings : Settings) :
    ∃ view : TemplateView, view.template = template ∧
      draftComponent c fixture settings = .ok (.awaiting c.name view) := by
  cases c with
  | breadcrumb =>
      exact ⟨StaticView.breadcrumb.inContext fixture, Option.some.inj delegates, rfl⟩
  | error => exact ⟨StaticView.errorPanel.inContext fixture, Option.some.inj delegates, rfl⟩
  | taskSandboxLink =>
      exact ⟨StaticView.taskSandboxLink.inContext fixture, Option.some.inj delegates, rfl⟩
  | groupSummary =>
      have groups := missing "groups" (by decide)
      have visible := missing "visibleGroups" (by decide)
      refine ⟨groupSummary [] (.seeded none), Option.some.inj delegates, ?_⟩
      rw [draftComponent, draftGroups, inputOr_of_missing groups, inputOr_of_missing visible]
      rfl
  | configSummary =>
      refine ⟨configSummary {}, Option.some.inj delegates, ?_⟩
      rw [draftComponent, inputOr_of_missing (missing "group" (by decide))]
      rfl
  | timeDisplay =>
      refine ⟨timeDisplay {}, Option.some.inj delegates, ?_⟩
      rw [draftComponent, inputOr_of_missing (missing "timestamp" (by decide))]
      rfl
  | updateSettings =>
      refine ⟨updateSummary {}, Option.some.inj delegates, ?_⟩
      rw [draftComponent, inputOr_of_missing (missing "update" (by decide))]
      rfl
  | _ => cases delegates

/-- Inputs that may be missing are read alike if they are `null`, but for the value of a link. -/
theorem render_withNulls_of_value {name : String} {c : Component}
    (found : resolveName name = some c.descriptor) {chosen : List String}
    (optional : ∀ input ∈ chosen, input ∈ c.optionalInputs) (value : "value" ∉ chosen)
    (fixture : Scope) (settings : Settings) (resolve : Resolver) :
    render name (fixture.withNulls chosen) settings resolve =
      render name (fixture.without chosen) settings resolve := by
  cases own : StaticView.ofComponent? c with
  | some v =>
      have none_chosen : chosen = [] := by
        refine List.eq_nil_iff_forall_not_mem.2 fun input member => ?_
        have listed := optional input member
        cases c with
        | breadcrumb | error | taskSandboxLink => cases listed
        | _ => cases own
      rw [none_chosen, Scope.withNulls_nil]
  | none =>
      refine render_congr found own ⟨fun input exact => ?_, fun input _ => ?_⟩ settings resolve
      · have kept : input ∉ chosen := fun member =>
          value (Component.value_of_exact_optional exact (optional input member) ▸ member)
        rw [Scope.get?_withNulls, Scope.get?_without, if_neg kept, if_neg kept]
      · exact Scope.orNull_withNulls fixture chosen input

/-- **To be bound to `null` is to be missing, except for the value of a link.**  A fixture with
some optional inputs of a component set to `null` is rendered like the fixture without them, exactly
unless the value of a link is among them and its role and environment can be read; then the link
fails with `null`, and is shown without.  If no optional input is there, or it is `null`, a link is
shown exactly if its value is not bound, and a template component fails only by its template. -/
theorem render_withNulls (settings : Settings) (resolve : Resolver) :
    (∀ name, ∀ c : Component, resolveName name = some c.descriptor →
      ∀ (fixture : Scope) (chosen : List String), (∀ input ∈ chosen, input ∈ c.optionalInputs) →
        (render name (fixture.withNulls chosen) settings resolve =
            render name (fixture.without chosen) settings resolve ↔
          ¬ ("value" ∈ chosen ∧ ∃ row, linkContext (fixture.without chosen) = .ok row))) ∧
    (∀ name, ∀ v : LinkVariant, resolveName name = some v.component.descriptor →
      ∀ (fixture : Scope) (chosen : List String), "value" ∈ chosen →
        ∀ role environment, linkContext (fixture.without chosen) = .ok (role, environment) →
          render name (fixture.withNulls chosen) settings resolve =
              .error (.json (.wrongKind .null .string)) ∧
            render name (fixture.without chosen) settings resolve =
              .ok (.markup v.component.name
                (linkAnchor settings.links v { role, environment }).toMarkup.html)) ∧
    (∀ name, ∀ c : Component, resolveName name = some c.descriptor → ∀ fixture : Scope,
      (∀ input ∈ c.optionalInputs,
        fixture.get? input = none ∨ fixture.get? input = some .null) →
      (∀ v : LinkVariant, v.component = c → render name fixture settings resolve =
        if fixture.contains "value" then .error (.json (.wrongKind .null .string))
        else .ok (.markup c.name (linkAnchor settings.links v {}).toMarkup.html)) ∧
      (∀ template, c.descriptor.template? = some template →
        ∃ scope : Scope, render name fixture settings resolve =
          (resolve template).map fun content =>
            .template c.name template.url content scope.toJson)) := by
  refine ⟨fun name c found fixture chosen optional => ⟨?_, fun fine => ?_⟩,
    fun name v found fixture chosen value role environment row => ?_,
    fun name c found fixture missing => ⟨?_, fun template delegates => ?_⟩⟩
  · rintro same ⟨value, ⟨role, environment⟩, row⟩
    obtain ⟨v, rfl⟩ := Component.link_of_value_optional (optional _ value)
    have outcome := render_link_withNulls found value fixture settings resolve
    rw [row] at outcome
    obtain ⟨refused, shown⟩ := outcome
    rw [refused, shown] at same
    cases same
  · by_cases value : "value" ∈ chosen
    · obtain ⟨v, rfl⟩ := Component.link_of_value_optional (optional _ value)
      have outcome := render_link_withNulls found value fixture settings resolve
      cases row : linkContext (fixture.without chosen) with
      | error mismatch =>
          rw [row] at outcome
          exact outcome.1.trans outcome.2.symm
      | ok read => exact absurd ⟨value, read, row⟩ fine
    · exact render_withNulls_of_value found optional value fixture settings resolve
  · have outcome := render_link_withNulls found value fixture settings resolve
    rwa [row] at outcome
  · rintro v rfl
    have listed : ∀ input ∈ ["value", "role", "environment"],
        input ∈ v.component.optionalInputs := by cases v <;> exact fun _ member => member
    have row : linkContext fixture = .ok (none, none) :=
      linkContext_of_missing (Scope.orNull_of_missing (missing _ (listed _ (by decide))))
        (Scope.orNull_of_missing (missing _ (listed _ (by decide))))
    rcases missing _ (listed "value" (by decide)) with unbound | null
    · have absent : fixture.contains "value" = false := congrArg Option.isSome unbound
      rw [render_link_unbound found unbound, row, absent]
      rfl
    · have bound : fixture.contains "value" = true := congrArg Option.isSome null
      rw [render_link_null found null, row, bound]
      rfl
  · obtain ⟨view, rfl, drafted⟩ := draftComponent_of_missing delegates
      (fun input member => Scope.orNull_of_missing (missing input member)) settings
    rw [render_of_resolved found, drafted]
    exact ⟨view.scope, finish_awaiting resolve c.name view⟩

/-- A timestamp that is `null` is the epoch; the value of a link that is `null` is not the empty
text. -/
theorem withNulls_at_epoch :
    let templates := FixedTemplates.empty.register .timeDisplay "<time></time>"
    let row := Scope.empty.insert "role" (.string "r1")
    render "time-display" (Scope.empty.withNulls ["timestamp"]) {} templates.resolve =
        render "time-display" (Scope.empty.without ["timestamp"]) {} templates.resolve ∧
      (∃ scope : Scope, render "time-display" .empty {} templates.resolve =
        .ok (.template "timeDisplay" "/timeDisplay.html" "<time></time>" scope.toJson)) ∧
      render "job-link" (row.withNulls ["value"]) {} templates.resolve =
        .error (.json (.wrongKind .null .string)) := by
  intro templates row
  obtain ⟨alike, refused, missing⟩ := render_withNulls {} templates.resolve
  have time : resolveName "time-display" = some Component.timeDisplay.descriptor := by
    decide +kernel
  refine ⟨?_, ?_, ?_⟩
  · exact (alike _ .timeDisplay time _ _ (by decide)).2 fun ⟨value, _⟩ => absurd value (by decide)
  · obtain ⟨-, delegated⟩ := missing _ .timeDisplay time .empty fun _ _ => .inl rfl
    exact delegated .timeDisplay rfl
  · exact (refused _ .job (by decide +kernel) row _ (by decide) (some "r1") none rfl).1

/-- A job link with `null` for its value fails; without a value it is shown. -/
theorem job_link_refuses_null :
    let row := Scope.empty.insert "role" (.string "r1")
    render "job-link" (row.withNulls ["value"]) {} FixedTemplates.empty.resolve =
        .error (.json (.wrongKind .null .string)) ∧
      render "job-link" (row.without ["value"]) {} FixedTemplates.empty.resolve =
        .ok (.markup "jobLink" "<a href=\"/scheduler/r1//\"></a>") := by
  intro row
  have found : resolveName "job-link" = some LinkVariant.job.component.descriptor := by
    decide +kernel
  constructor
  · rw [render_link_null found rfl]
    rfl
  · have anchor : (linkAnchor {} .job { role := some "r1" }).toMarkup.html =
        "<a href=\"/scheduler/r1//\"></a>" := by decide +kernel
    rw [render_link_unbound found rfl, ← anchor]
    rfl

end ConsoleView
