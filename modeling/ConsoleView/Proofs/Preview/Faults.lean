/-
# ConsoleView.Proofs.Preview.Faults -- how a rendering can fail

A component reads its inputs and may ask for a template; the instance grid is
mounted as well, but into an element that has just been created, and that does
not fail.  So a component that is found fails by an input or by its template
(`failsOnly_render`), which are the faults that a page can recover from: a
placeholder takes the component's place.  Only a name that means nothing ends
the page (`renderOrPlaceholder_outcome`).
-/
import ConsoleView.Preview.Render
import ConsoleView.Proofs.InstanceSummary.Mount
import ConsoleView.Proofs.Preview.Guarded

namespace ConsoleView

set_option autoImplicit false

open Json

/-! ## Faults of inputs and of templates -/

namespace ViewError

def IsInputFault : ViewError → Prop
  | .json _ | .malformedInput _ _ | .missingInput _ _ => True
  | _ => False

def IsTemplateFault : ViewError → Prop
  | .templateNotFound _ | .templateRead _ _ _ => True
  | _ => False

theorem isRecoverable_iff {e : ViewError} :
    e.isRecoverable = true ↔ e.IsInputFault ∨ e.IsTemplateFault := by
  cases e <;> simp [isRecoverable, IsInputFault, IsTemplateFault]

theorem ne_of_isRecoverable {e other : ViewError} (fine : e.isRecoverable = true)
    (final : other.isRecoverable = false) : e ≠ other := by
  rintro rfl
  rw [fine] at final
  cases final

end ViewError

/-- If there is no result, the error is an allowed one. -/
def FailsOnly {α : Type} (allowed : ViewError → Prop) (result : Except ViewError α) : Prop :=
  ∀ e, result = .error e → allowed e

section FailsOnly

variable {α β : Type} {allowed : ViewError → Prop} {x : Except ViewError α}

theorem failsOnly_ok (a : α) : FailsOnly allowed (.ok a) := nofun

theorem failsOnly_error {e : ViewError} (fine : allowed e) :
    FailsOnly allowed (.error e : Except ViewError α) := fun _ same => Except.error.inj same ▸ fine

theorem FailsOnly.bind {f : α → Except ViewError β} (first : FailsOnly allowed x)
    (next : ∀ a, FailsOnly allowed (f a)) : FailsOnly allowed (x >>= f) := by
  cases x with
  | error e => exact failsOnly_error (first e rfl)
  | ok a => exact next a

theorem FailsOnly.map (f : α → β) (first : FailsOnly allowed x) : FailsOnly allowed (x.map f) := by
  cases x with
  | error e => exact failsOnly_error (first e rfl)
  | ok a => exact failsOnly_ok (f a)

end FailsOnly

/-- A resolver that answers with no other error than that a template could not be had. -/
def Resolver.Plain (resolve : Resolver) : Prop :=
  ∀ name, FailsOnly ViewError.IsTemplateFault (resolve name)

/-! ## Reading inputs -/

section Inputs

variable (fixture : Scope)

theorem failsOnly_decode {α : Type} (codec : Codec α) (j : Json) :
    FailsOnly ViewError.IsInputFault (codec.decode j) := by
  rw [Codec.decode]
  split
  · exact failsOnly_ok _
  · exact failsOnly_error trivial

theorem failsOnly_inputOr {α : Type} (name : String) (codec : Codec α) (default : α) :
    FailsOnly ViewError.IsInputFault (inputOr fixture name codec default) := by
  rw [inputOr]
  split
  · exact failsOnly_ok default
  · exact failsOnly_ok default
  · exact failsOnly_decode codec _

theorem failsOnly_statsFrom : FailsOnly ViewError.IsInputFault (InstanceInputs.statsFrom fixture) := by
  rw [InstanceInputs.statsFrom]
  split
  · exact failsOnly_ok _
  · exact failsOnly_ok _
  · exact failsOnly_decode _ _

theorem failsOnly_ofScope : FailsOnly ViewError.IsInputFault (InstanceInputs.ofScope fixture) := by
  simp only [InstanceInputs.ofScope]
  split
  · exact failsOnly_error trivial
  · split
    · rename_i items _
      have stats := failsOnly_statsFrom fixture
      have instances := failsOnly_decode (.list InstanceRecord.codec) (.array items)
      split
      · rename_i e failed
        exact failsOnly_error (stats e failed)
      · split
        · rename_i e failed
          exact failsOnly_error (instances e failed)
        · exact failsOnly_ok _
    · exact failsOnly_error trivial

/-- Up to its template a component fails by its inputs only. -/
theorem failsOnly_draftComponent (component : Component) (settings : Settings) :
    FailsOnly ViewError.IsInputFault (draftComponent component fixture settings) := by
  have link : ∀ v, FailsOnly ViewError.IsInputFault (draftLink component v fixture settings) :=
    fun v => (failsOnly_decode LinkTarget.codec _).bind fun _ => failsOnly_ok _
  cases component with
  | roleLink => exact link .role
  | roleEnvLink => exact link .roleEnv
  | jobLink => exact link .job
  | taskLink => exact link .task
  | breadcrumb | error | taskSandboxLink | taskStatus | schedulingDetail => exact failsOnly_ok _
  | groupSummary =>
      have groups : FailsOnly ViewError.IsInputFault (draftGroups fixture) :=
        (failsOnly_inputOr fixture _ _ _).bind fun _ =>
          (failsOnly_inputOr fixture _ _ _).bind fun _ => failsOnly_ok _
      exact groups.bind fun _ => failsOnly_ok _
  | configSummary | timeDisplay | updateSettings =>
      exact (failsOnly_inputOr fixture _ _ _).bind fun _ => failsOnly_ok _
  | instanceSummary =>
      show FailsOnly _ (draftInstances fixture)
      rw [InstanceSummary.draftInstances_eq]
      exact (failsOnly_ofScope fixture).map _

end Inputs

/-! ## Rendering -/

theorem failsOnly_finish {resolve : Resolver} (plain : resolve.Plain) (d : Draft) :
    FailsOnly ViewError.IsTemplateFault (d.finish resolve) := by
  cases d with
  | ready output => exact failsOnly_ok output
  | awaiting component view =>
      have bound : FailsOnly ViewError.IsTemplateFault (view.render resolve) := by
        rw [TemplateView.render, bindTemplate]
        split
        · exact failsOnly_ok _
        · rename_i e failed
          exact failsOnly_error (plain _ e failed)
      exact bound.map _

/-- A component that is found fails by an input or by its template. -/
theorem failsOnly_render {name : String} {c : Component}
    (found : resolveName name = some c.descriptor) (fixture : Scope) (settings : Settings)
    {resolve : Resolver} (plain : resolve.Plain) :
    FailsOnly (fun e => e.isRecoverable = true) (render name fixture settings resolve) := by
  rw [render_of_resolved found]
  have drafted := failsOnly_draftComponent fixture c settings
  refine FailsOnly.bind (fun e failed => ?_) fun d e failed => ?_
  · exact ViewError.isRecoverable_iff.2 (.inl (drafted e failed))
  · exact ViewError.isRecoverable_iff.2 (.inr (failsOnly_finish plain d e failed))

theorem render_of_unresolved {name : String} (unknown : resolveName name = none) (fixture : Scope)
    (settings : Settings) (resolve : Resolver) :
    render name fixture settings resolve = .error (.unknownComponent name) := by
  rw [render, draft, unknown]

/-! ## Resolvers -/

theorem FixedTemplates.plain (templates : FixedTemplates) : templates.resolve.Plain := by
  intro name
  rw [FixedTemplates.resolve]
  split
  · exact failsOnly_ok _
  · exact failsOnly_error trivial

namespace FileTemplates

variable {σ : Type} (disk : Disk (StateM σ)) (f : FileTemplates) (s : σ)

theorem failsOnly_answer (name : TemplateName) (read : Except FileFault String) :
    FailsOnly ViewError.IsTemplateFault (f.answer name read) := by
  cases read with
  | ok markup => exact failsOnly_ok markup
  | error fault =>
      have named : (f.readError name fault).IsTemplateFault := by cases fault <;> trivial
      exact failsOnly_error named

/-- What templates from files answer in a state of the disk. -/
def resolverAt : Resolver := fun name => ((f.resolve disk name).run s).1.1

theorem plain_resolverAt : (f.resolverAt disk s).Plain := by
  intro name
  rw [resolverAt, resolve]
  cases f.kept? name with
  | some markup => exact failsOnly_ok markup
  | none =>
      simp only [StateT.run_bind]
      rcases outcome : (disk.readText (f.path name)).run s with ⟨read, later⟩
      have answered := f.failsOnly_answer name read
      simp only [bind]
      cases answer : f.answer name read with
      | ok markup => exact failsOnly_ok markup
      | error e => exact failsOnly_error (answered e answer)

/-- Rendering from files is rendering with what the files answer. -/
theorem renderFromFiles_run (name : String) (fixture : Scope) (settings : Settings) :
    ((renderFromFiles disk f name fixture settings).run s).1.1 =
      render name fixture settings (f.resolverAt disk s) := by
  rw [renderFromFiles, render]
  cases draft name fixture settings with
  | error e => rfl
  | ok d =>
      cases d with
      | ready output => rfl
      | awaiting component view =>
          have same : ∀ template, (Draft.awaiting component view).template? = some template →
              ((f.resolve disk view.template).run s).1.1 = f.resolverAt disk s template :=
            fun template asked => Option.some.inj asked ▸ rfl
          exact Draft.finish_congr same

end FileTemplates

/-! ## Pages -/

theorem orPlaceholder_of_isRecoverable {e : ViewError} (fine : e.isRecoverable = true)
    (name : String) :
    orPlaceholder name (.error e) =
      .ok (.error name e.message (placeholder name e.message).toMarkup.html) :=
  if_pos fine

/-- There is something to show for a name exactly if it means a component. -/
theorem renderOrPlaceholder_ok_iff {name : String} {fixture : Scope} {settings : Settings}
    {resolve : Resolver} (plain : resolve.Plain) :
    (∃ output, renderOrPlaceholder name fixture settings resolve = .ok output) ↔
      ∃ d ∈ registry, d.name = normalizeName name := by
  cases resolved : resolveName name with
  | none =>
      have foreign := resolveName_eq_none_iff.1 resolved
      constructor
      · rintro ⟨output, shown⟩
        rw [renderOrPlaceholder, render_of_unresolved resolved] at shown
        cases shown
      · rintro ⟨d, member, same⟩
        exact absurd same (foreign d member)
  | some d =>
      have row : d = d.component.descriptor := descriptor_of_mem (mem_of_resolveName resolved)
      have fails := failsOnly_render (row ▸ resolved) fixture settings plain
      refine iff_of_true ?_ ?_
      · rw [renderOrPlaceholder]
        cases drawn : render name fixture settings resolve with
        | ok output => exact ⟨output, rfl⟩
        | error e => exact ⟨_, orPlaceholder_of_isRecoverable (fails e drawn) name⟩
      · by_contra unknown
        have foreign : ∀ d ∈ registry, d.name ≠ normalizeName name := fun d member same =>
          unknown ⟨d, member, same⟩
        rw [resolveName_eq_none_iff.2 foreign] at resolved
        cases resolved

/-- **A page never breaks on a component that is there.**  Rendering, with all its guards, fails for
a name that means nothing, and then the page fails with the name as it was given; it also fails for a
component by an input or by its template, and then the page shows a placeholder with the name as it
was given and the error in words; and it never fails in any other way.  The templates registered up
front and those from files fail as templates only, in every state of the disk. -/
theorem renderOrPlaceholder_outcome :
    (∀ (name : String) (fixture : Scope) (settings : Settings) (resolve : Resolver),
      resolve.Plain →
      let drawn := render name fixture settings resolve
      let shown := renderOrPlaceholder name fixture settings resolve
      renderGuarded name fixture settings resolve = drawn ∧
      (∀ e, shown = .error e ↔
        (∀ d ∈ registry, d.name ≠ normalizeName name) ∧ e = .unknownComponent name) ∧
      (∀ d ∈ registry, d.name = normalizeName name → ∃ output, shown = .ok output ∧
        (drawn = .ok output ∨ ∃ e, drawn = .error e ∧
          output = .error name e.message (placeholder name e.message).toMarkup.html)) ∧
      (∀ e, drawn = .error e →
        (∀ fault, e ≠ .io fault) ∧ (∀ node, e ≠ .nodeNotFound node) ∧ (∀ text, e ≠ .config text) ∧
        ∀ d ∈ registry, d.name = normalizeName name → ∀ other, e ≠ .unknownComponent other)) ∧
    (∀ templates : FixedTemplates, templates.resolve.Plain) ∧
    (∀ (σ : Type) (disk : Disk (StateM σ)) (files : FileTemplates) (state : σ),
      (files.resolverAt disk state).Plain ∧
      ∀ name fixture settings,
        ((renderFromFiles disk files name fixture settings).run state).1.1 =
          render name fixture settings (files.resolverAt disk state)) := by
  refine ⟨fun name fixture settings resolve plain => ?_, FixedTemplates.plain,
    fun σ disk files state =>
      ⟨files.plain_resolverAt disk state, files.renderFromFiles_run disk state⟩⟩
  intro drawn shown
  refine ⟨renderGuarded_eq name fixture settings resolve, ?_⟩
  cases resolved : resolveName name with
  | none =>
      have foreign := resolveName_eq_none_iff.1 resolved
      have failed : drawn = .error (.unknownComponent name) :=
        render_of_unresolved resolved fixture settings resolve
      have passedOn : shown = .error (.unknownComponent name) := by
        show orPlaceholder name drawn = _
        rw [failed]
        rfl
      refine ⟨fun e => ?_, fun d member same => absurd same (foreign d member), fun e other => ?_⟩
      · rw [passedOn]
        exact ⟨fun same => ⟨foreign, (Except.error.inj same).symm⟩, fun ⟨_, same⟩ => same ▸ rfl⟩
      · rw [failed] at other
        obtain rfl := Except.error.inj other
        exact ⟨nofun, nofun, nofun, fun d member same => absurd same (foreign d member)⟩
  | some d =>
      have row : d = d.component.descriptor := descriptor_of_mem (mem_of_resolveName resolved)
      have known : ¬ ∀ d ∈ registry, d.name ≠ normalizeName name := fun foreign => by
        rw [resolveName_eq_none_iff.2 foreign] at resolved
        cases resolved
      have recoverable : FailsOnly (fun e => e.isRecoverable = true) drawn :=
        failsOnly_render (row ▸ resolved) fixture settings plain
      have there : ∃ output, shown = .ok output ∧ (drawn = .ok output ∨ ∃ e, drawn = .error e ∧
          output = .error name e.message (placeholder name e.message).toMarkup.html) := by
        show ∃ output, orPlaceholder name drawn = .ok output ∧ _
        cases outcome : drawn with
        | ok output => exact ⟨output, rfl, .inl rfl⟩
        | error e =>
            exact ⟨_, orPlaceholder_of_isRecoverable (recoverable e outcome) name,
              .inr ⟨e, rfl, rfl⟩⟩
      refine ⟨fun e => ?_, fun _ _ _ => there, fun e failed => ?_⟩
      · obtain ⟨output, shows, -⟩ := there
        rw [shows]
        exact ⟨nofun, fun ⟨foreign, _⟩ => absurd foreign known⟩
      · have fine := recoverable e failed
        exact ⟨fun _ => ViewError.ne_of_isRecoverable fine rfl,
          fun _ => ViewError.ne_of_isRecoverable fine rfl,
          fun _ => ViewError.ne_of_isRecoverable fine rfl,
          fun _ _ _ _ => ViewError.ne_of_isRecoverable fine rfl⟩

/-- Without templates a breadcrumb leaves a placeholder, and a name that means nothing is passed
on. -/
theorem outcome_without_templates :
    FixedTemplates.empty.resolve.Plain ∧
      (∃ output, renderOrPlaceholder "x-breadcrumb" .empty {} FixedTemplates.empty.resolve =
          .ok output ∧
        output = .error "x-breadcrumb" "Template not found: /breadcrumb.html"
          (placeholder "x-breadcrumb" "Template not found: /breadcrumb.html").toMarkup.html) ∧
      renderOrPlaceholder "pod-list" .empty {} FixedTemplates.empty.resolve =
        .error (.unknownComponent "pod-list") := by
  obtain ⟨rendering, fixed, -⟩ := renderOrPlaceholder_outcome
  have plain := fixed .empty
  obtain ⟨-, -, found, -⟩ := rendering "x-breadcrumb" .empty {} _ plain
  obtain ⟨-, unknown, -⟩ := rendering "pod-list" .empty {} _ plain
  refine ⟨plain, ?_, (unknown _).2 ⟨by decide +kernel, rfl⟩⟩
  obtain ⟨output, shown, drawn⟩ :=
    found Component.breadcrumb.descriptor (by decide) (by decide +kernel)
  have failed : render "x-breadcrumb" .empty {} FixedTemplates.empty.resolve =
      .error (.templateNotFound "/breadcrumb.html") := by
    have resolved : resolveName "x-breadcrumb" = some Component.breadcrumb.descriptor := by
      decide +kernel
    rw [render_of_resolved resolved]
    rfl
  rw [failed] at drawn
  refine ⟨output, shown, ?_⟩
  rcases drawn with impossible | ⟨e, same, made⟩
  · cases impossible
  · cases same
    exact made

end ConsoleView
