/-
# ConsoleView.Proofs.CommandLine.Run -- one answer or none

Once its log is open, a run looks at the disk four times: it may write a
configuration file, and it reads the configuration, the fixture and at most one
template.  `findings` is all that it sees, and what it answers is told by that
alone (`runWith_eq`).  Of the findings two can end it, the writing of the
configuration and the fixture; a name that means nothing is the third reason.
What else is wrong is absorbed: settings that cannot be loaded are the defaults,
and a component that fails leaves a placeholder.  The answer is one line, since
the text of a JSON value has no line break.
-/
import ConsoleView.CommandLine.Run
import ConsoleView.Proofs.Json.Line
import ConsoleView.Proofs.Settings.Saved
import ConsoleView.Proofs.Template.Caching

namespace ConsoleView

set_option autoImplicit false

/-! ## What a run finds -/

structure Findings where
  /-- Whether the configuration file that was asked for is there. -/
  initialized : Except ViewError Unit
  settings : Settings
  fixture : Except FileFault String
  /-- What the templates' files answer. -/
  resolve : Resolver

variable {σ : Type} {disk : Disk (StateM σ)} {env : Environment} {arguments : Arguments} {s : σ}

/-- What a run finds in a state of the disk, step after step; a run that has ended before a step
would have found the same. -/
def findings (disk : Disk (StateM σ)) (arguments : Arguments) (dir : String) (s : σ) : Findings :=
  let initialized := initIfAsked disk arguments dir s
  let loaded := loadSettings disk dir initialized.2
  let fixture := disk.readText arguments.fixture loaded.2
  { initialized := initialized.1
    settings := loaded.1
    fixture := fixture.1
    resolve := (configuredTemplates dir loaded.1).resolverAt disk fixture.2 }

def Findings.outcome (found : Findings) (arguments : Arguments) (dir : String) : Outcome :=
  match found.initialized with
  | .error e => .failure (("initializing " ++ dir) :: e.causes)
  | .ok () =>
      match found.fixture with
      | .error fault => .failure ["reading fixture " ++ arguments.fixture, fault.text]
      | .ok text =>
          match readFixture text with
          | .error causes => .failure causes
          | .ok fixture =>
              .ofRendering arguments.component
                (renderOrPlaceholder arguments.component fixture found.settings found.resolve)

theorem bind_of_run {α β : Type} {x : StateM σ α} {f : α → StateM σ β} {s s' : σ} {a : α}
    (ran : x s = (a, s')) : (x >>= f) s = f a s' := by
  simp only [bind, StateT.bind, ran]

/-- **A run is told by what it finds.** -/
theorem runWith_eq {opened : σ} (logs : openLog disk env s = (none, opened)) {dir : String}
    (configured : arguments.configDir.getD env.currentDirectory = dir) :
    (runWith disk env arguments s).1 =
      (findings disk arguments dir opened).outcome arguments dir := by
  simp only [findings, Findings.outcome]
  rcases asked : initIfAsked disk arguments dir opened with ⟨initialized, s₁⟩
  rcases loaded : loadSettings disk dir s₁ with ⟨settings, s₂⟩
  rcases read : disk.readText arguments.fixture s₂ with ⟨fixture, s₃⟩
  rw [runWith, bind_of_run logs, configured]
  dsimp only
  rw [bind_of_run asked]
  cases initialized with
  | error e => rfl
  | ok _ =>
      dsimp only
      rw [bind_of_run loaded, bind_of_run read]
      cases fixture with
      | error fault => rfl
      | ok text =>
          dsimp only
          cases parsed : readFixture text with
          | error causes => rfl
          | ok scope =>
              have rendered := (configuredTemplates dir settings).renderFromFiles_run disk s₃
                arguments.component scope settings
              dsimp only
              rw [renderOrPlaceholder, ← rendered]
              rfl

theorem initialized_eq_ok_iff {dir : String} :
    (findings disk arguments dir s).initialized = .ok () ↔
      (arguments.init = true → (initSettings disk dir s).1 = .ok ()) := by
  show (initIfAsked disk arguments dir s).1 = .ok () ↔ _
  rw [initIfAsked]
  cases arguments.init with
  | true => exact ⟨fun done _ => done, fun done => done rfl⟩
  | false => exact ⟨fun _ asked => (by cases asked), fun _ => rfl⟩

/-- The templates of a run fail as templates only. -/
theorem plain_findings {dir : String} : (findings disk arguments dir s).resolve.Plain :=
  FileTemplates.plain_resolverAt disk _ _

/-! ## What a run shows -/

theorem readFixture_eq_ok_iff {text : String} {fixture : Scope} :
    readFixture text = .ok fixture ↔
      ∃ fields, Json.read fixtureNesting text = .ok (.object fields) ∧
        Scope.ofFields fields = fixture := by
  rw [readFixture]
  cases Json.read fixtureNesting text with
  | error why => simp
  | ok j => cases j <;> simp [Scope.ofJson?]

namespace Findings

variable {found : Findings} {component dir : String} {output : PreviewOutput}

/-- A run that has found this has something to show. -/
structure Shows (found : Findings) (component : String) (output : PreviewOutput) : Prop where
  initialized : found.initialized = .ok ()
  rendered : ∃ text fields, found.fixture = .ok text ∧
    Json.read fixtureNesting text = .ok (.object fields) ∧
    renderOrPlaceholder component (.ofFields fields) found.settings found.resolve = .ok output

/-- What is shown is the answer. -/
theorem outcome_of_shows (shows : found.Shows arguments.component output) :
    found.outcome arguments dir = { code := 0, stdout := output.line ++ "\n" } := by
  obtain ⟨initialized, text, fields, given, parsed, rendered⟩ := shows
  rw [outcome, initialized, given]
  dsimp only
  rw [readFixture_eq_ok_iff.2 ⟨fields, parsed, rfl⟩]
  dsimp only
  rw [rendered, Outcome.ofRendering]

/-- If nothing is shown, the run gives its reasons and no answer. -/
theorem outcome_of_not_shows (nothing : ∀ output, ¬ found.Shows arguments.component output) :
    ∃ causes, found.outcome arguments dir = .failure causes := by
  rw [outcome]
  cases initialized : found.initialized with
  | error e => exact ⟨_, rfl⟩
  | ok _ =>
      cases given : found.fixture with
      | error fault => exact ⟨_, rfl⟩
      | ok text =>
          dsimp only
          cases parsed : readFixture text with
          | error causes => exact ⟨causes, rfl⟩
          | ok fixture =>
              obtain ⟨fields, read, rfl⟩ := readFixture_eq_ok_iff.1 parsed
              dsimp only
              cases rendered : renderOrPlaceholder arguments.component (.ofFields fields)
                  found.settings found.resolve with
              | error e => exact ⟨_, rfl⟩
              | ok output =>
                  exact absurd ⟨initialized, text, fields, given, read, rendered⟩ (nothing output)

/-- There is something to show if the configuration has been written as asked, the fixture is an
object and the name means a component; settings, templates and inputs do not matter. -/
theorem shows_iff (plain : found.resolve.Plain) :
    (∃ output, found.Shows component output) ↔ found.initialized = .ok () ∧
      (∃ text fields, found.fixture = .ok text ∧
        Json.read fixtureNesting text = .ok (.object fields)) ∧
      ∃ d ∈ registry, d.name = normalizeName component := by
  constructor
  · rintro ⟨output, initialized, text, fields, given, read, rendered⟩
    exact ⟨initialized, ⟨text, fields, given, read⟩,
      (renderOrPlaceholder_ok_iff plain).1 ⟨output, rendered⟩⟩
  · rintro ⟨initialized, ⟨text, fields, given, read⟩, known⟩
    obtain ⟨output, rendered⟩ := (renderOrPlaceholder_ok_iff plain).2 known
    exact ⟨output, initialized, text, fields, given, read, rendered⟩

end Findings

/-! ## Honest disks -/

section Honest

variable {cwd : Place} {tree : σ → FileTree} {dir : String}

/-- Without a text that is kept, a template is what its file holds. -/
theorem resolverAt_configured (honest : disk.Honest cwd tree) (settings : Settings) (s : σ)
    (name : TemplateName) :
    let templates := FileTemplates.uncached (templateRoot dir settings)
    (configuredTemplates dir settings).resolverAt disk s name =
      templates.answer name ((tree s).readText cwd (templates.path name)) := by
  intro templates
  have unkept : (configuredTemplates dir settings).kept? name = none := by
    rw [configuredTemplates]
    split <;> rfl
  have root : (configuredTemplates dir settings).root = templateRoot dir settings := by
    rw [configuredTemplates]
    split <;> rfl
  rw [FileTemplates.resolverAt_of_unkept unkept, root, FileTemplates.resolverAt, StateT.run,
    FileTemplates.resolve_of_unkept rfl (honest.readText _ s)]

/-- On an honest disk a run finds what is in the files once it has written its own. -/
theorem findings_of_honest (honest : disk.Honest cwd tree) :
    let found := findings disk arguments dir s
    let files := tree (initIfAsked disk arguments dir s).2
    let templates := FileTemplates.uncached (templateRoot dir found.settings)
    found.settings = files.loaded cwd dir ∧ found.fixture = files.readText cwd arguments.fixture ∧
      ∀ name, found.resolve name =
        templates.answer name (files.readText cwd (templates.path name)) := by
  rcases asked : initIfAsked disk arguments dir s with ⟨initialized, s₁⟩
  simp only [findings, asked, loadSettings_eq honest, honest.readText, true_and]
  exact resolverAt_configured honest _ s₁

end Honest

/-! ## Runs -/

/-- **One answer or none.**  A run whose arguments are understood and whose log opens either ends
with 0 and one line, the placeholder or the output of the component with the settings and templates
it has found; or it ends with 1 and shows nothing.  It ends with 0 exactly if the configuration was
written as far as that was asked, the fixture is a text that is a JSON object, and the name means a
component.  On an honest disk, one that fails included, what it has found is what its files hold. -/
theorem runProgram_answers (disk : Disk (StateM σ)) (env : Environment) {args : List String}
    {arguments : Arguments} (understood : CommandLine.read args = .run arguments) {s opened : σ}
    (logs : openLog disk env s = (none, opened)) :
    let dir := arguments.configDir.getD env.currentDirectory
    let found := findings disk arguments dir opened
    let outcome := (runProgram disk env args s).1
    ((outcome.code = 0 ∧ ∃ text fields output, found.fixture = .ok text ∧
        Json.read fixtureNesting text = .ok (.object fields) ∧
        renderOrPlaceholder arguments.component (.ofFields fields) found.settings found.resolve =
          .ok output ∧
        outcome.stdout = output.line ++ "\n" ∧ '\n' ∉ output.line.toList) ∨
      (outcome.code = 1 ∧ outcome.stdout = "")) ∧
    (outcome.code = 0 ↔
      (arguments.init = true → (initSettings disk dir opened).1 = .ok ()) ∧
      (∃ text fields, found.fixture = .ok text ∧
        Json.read fixtureNesting text = .ok (.object fields)) ∧
      ∃ d ∈ registry, d.name = normalizeName arguments.component) ∧
    ∀ cwd tree, disk.Honest cwd tree →
      let files := tree (initIfAsked disk arguments dir opened).2
      let templates := FileTemplates.uncached (templateRoot dir found.settings)
      found.settings = files.loaded cwd dir ∧
        found.fixture = files.readText cwd arguments.fixture ∧
        ∀ name, found.resolve name =
          templates.answer name (files.readText cwd (templates.path name)) := by
  intro dir found outcome
  have told : outcome = found.outcome arguments dir := by
    show (runProgram disk env args s).1 = _
    rw [runProgram, understood]
    exact runWith_eq logs rfl
  have conditions : (∃ output, found.Shows arguments.component output) ↔ _ :=
    Findings.shows_iff plain_findings
  rw [initialized_eq_ok_iff] at conditions
  rw [← conditions, told]
  by_cases shown : ∃ output, found.Shows arguments.component output
  · obtain ⟨output, shows⟩ := shown
    obtain ⟨text, fields, given, read, rendered⟩ := shows.rendered
    rw [Findings.outcome_of_shows shows]
    have line : '\n' ∉ output.line.toList := output.toJson.newline_not_mem_print
    exact ⟨.inl ⟨rfl, text, fields, output, given, read, rendered, rfl, line⟩,
      ⟨fun _ => ⟨output, shows⟩, fun _ => rfl⟩, fun cwd tree honest => findings_of_honest honest⟩
  · obtain ⟨causes, failed⟩ := Findings.outcome_of_not_shows (not_exists.1 shown)
    rw [failed]
    have failure : (Outcome.failure causes).code ≠ 0 := by
      show (1 : UInt32) ≠ 0
      decide
    exact ⟨.inr ⟨rfl, rfl⟩, ⟨fun zero => absurd zero failure, fun shows => absurd shows shown⟩,
      fun cwd tree honest => findings_of_honest honest⟩

/-! ## A run with faults -/

namespace Faulty

/-- Inputs that cannot be read. -/
def fixture : String := "\x7b\x22instances\x22:3\x7d"

/-- A configuration file that is none, and no templates. -/
def files : FileTree :=
  ⟨[(["f.json"], .file fixture.toUTF8), (["console.toml"], .file "=".toUTF8)]⟩

def around : Environment :=
  { dataHome := some "/data", currentDirectory := "/", date := "2024-05-06" }

def run (component : String) : Outcome :=
  (runProgram (FileTree.disk []) around [component, "f.json"] files).1

theorem opens : ∃ opened, openLog (FileTree.disk []) around files = (none, opened) ∧
    opened.readText [] "f.json" = .ok fixture := by
  have opens : (openLog (FileTree.disk []) around files).1 = none := by decide +kernel
  have read : ((openLog (FileTree.disk []) around files).2.readText [] "f.json").toOption =
      some fixture := by decide +kernel
  rcases logs : openLog (FileTree.disk []) around files with ⟨ended, opened⟩
  rw [logs] at opens read
  refine ⟨opened, Prod.ext opens rfl, ?_⟩
  revert read
  cases opened.readText [] "f.json" with
  | error fault => exact nofun
  | ok text => exact fun same => congrArg Except.ok (Option.some.inj same)

theorem read_fixture :
    Json.read fixtureNesting fixture = .ok (.object [("instances", .int 3)]) := rfl

def message : String := "Malformed input for instanceSummary: instances must be an ordered list"

/-- What is wrong with the inputs is found before settings or templates matter. -/
theorem renderOrPlaceholder_eq (settings : Settings) (resolve : Resolver) :
    renderOrPlaceholder "instance-summary" (.ofFields [("instances", .int 3)]) settings resolve =
      .ok (.error "instance-summary" message
        (placeholder "instance-summary" message).toMarkup.html) := by
  have meant : resolveName "instance-summary" = some Component.instanceSummary.descriptor := by
    decide +kernel
  rw [renderOrPlaceholder, render, draft, meant]
  rfl

theorem renderOrPlaceholder_marker (settings : Settings) (resolve : Resolver) :
    renderOrPlaceholder "scheduling-detail" (.ofFields [("instances", .int 3)]) settings resolve =
      .ok (.marker "schedulingDetail") := by
  have meant : resolveName "scheduling-detail" = some Component.schedulingDetail.descriptor := by
    decide +kernel
  rw [renderOrPlaceholder, render, draft, meant]
  rfl

end Faulty

open Faulty

/-- A configuration file that is none, no templates and inputs that cannot be read leave a
placeholder; a name that means nothing leaves nothing. -/
theorem placeholder_despite_faults :
    (run "instance-summary").code = 0 ∧
      (run "instance-summary").stdout = (PreviewOutput.error "instance-summary" message
        (placeholder "instance-summary" message).toMarkup.html).line ++ "\n" ∧
      (run "scheduling-detail").stdout =
        "\x7b\x22kind\x22:\x22marker\x22,\x22component\x22:\x22schedulingDetail\x22\x7d\n" ∧
      (run "breadcrumb").code = 0 ∧ (run "pod-list").code = 1 ∧ (run "pod-list").stdout = "" := by
  obtain ⟨opened, logs, held⟩ := opens
  have ends (component : String) (understood : CommandLine.read [component, "f.json"] =
      .run { component, fixture := "f.json" }) :
      (((run component).code = 0 ∧ ∃ settings resolve output,
          renderOrPlaceholder component (.ofFields [("instances", .int 3)]) settings resolve =
            .ok output ∧ (run component).stdout = output.line ++ "\n") ∨
        (run component).code = 1 ∧ (run component).stdout = "") ∧
      ((run component).code = 0 ↔ ∃ d ∈ registry, d.name = normalizeName component) := by
    obtain ⟨answers, zero, found⟩ := runProgram_answers (FileTree.disk []) around understood logs
    obtain ⟨-, given, -⟩ := found [] id (FileTree.honest_disk [])
    refine ⟨answers.imp_left ?_, zero.trans ⟨fun all => all.2.2, fun known => ?_⟩⟩
    · rintro ⟨code, text, fields, output, sameText, sameFields, rendered, stdout, -⟩
      rw [given.trans held, Except.ok.injEq] at sameText
      rw [← sameText, read_fixture, Except.ok.injEq, Json.object.injEq] at sameFields
      rw [← sameFields] at rendered
      exact ⟨code, _, _, output, rendered, stdout⟩
    · exact ⟨nofun, ⟨_, _, given.trans held, read_fixture⟩, known⟩
  have prints {component : String} (understood : CommandLine.read [component, "f.json"] =
      .run { component, fixture := "f.json" })
      (known : ∃ d ∈ registry, d.name = normalizeName component) {output : PreviewOutput}
      (rendered : ∀ settings resolve, renderOrPlaceholder component
        (.ofFields [("instances", .int 3)]) settings resolve = .ok output) :
      (run component).stdout = output.line ++ "\n" := by
    obtain ⟨⟨-, settings, resolve, shown, found, stdout⟩ | failed, zero⟩ :=
      ends component understood
    · rw [rendered, Except.ok.injEq] at found
      rw [stdout, found]
    · rw [zero.2 known] at failed
      cases failed.1
  have known : (∃ d ∈ registry, d.name = normalizeName "instance-summary") ∧
      (∃ d ∈ registry, d.name = normalizeName "scheduling-detail") ∧
      (∃ d ∈ registry, d.name = normalizeName "breadcrumb") ∧
      ¬ ∃ d ∈ registry, d.name = normalizeName "pod-list" := by decide +kernel
  have marker := prints (by decide +kernel) known.2.1 renderOrPlaceholder_marker
  refine ⟨((ends _ (by decide +kernel)).2).2 known.1,
    prints (by decide +kernel) known.1 renderOrPlaceholder_eq, marker.trans (by decide +kernel),
    ((ends _ (by decide +kernel)).2).2 known.2.2.1, ?_⟩
  obtain ⟨answers, zero⟩ := ends "pod-list" (by decide +kernel)
  exact answers.resolve_left fun shown => known.2.2.2 (zero.1 shown.1)

end ConsoleView
