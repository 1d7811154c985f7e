/-
# ConsoleView.Proofs.Template.Caching -- what a cache of templates shows

Templates are resolved while their files change.  A cache is filled by the first
text that is read for a name, and by nothing else; so a name is answered as
without a cache until that text is read, and with that text from then on
(`remembers_resolveAmong`).  What is done with other names does not matter
(`answers_for_name`), and as long as the files stay as they are the cache cannot
be told from reading them each time (`answers_of_truthful`).
-/
import ConsoleView.Proofs.Preview.Faults
import ConsoleView.Proofs.Disk.Directory

namespace ConsoleView

set_option autoImplicit false

/-- A template is resolved, or something happens to the files, which are then in the state `s`. -/
inductive TemplateEvent (σ : Type) where
  | resolve (name : TemplateName)
  | change (s : σ)

/-- Answers by the names that were resolved, in order. -/
abbrev TemplateAnswers := List (TemplateName × Except ViewError String)

/-- The first text that was answered for a name. -/
def TemplateAnswers.firstText (answers : TemplateAnswers) (name : TemplateName) : Option String :=
  answers.findSome? fun a => if a.1 = name then a.2.toOption else none

/-- Events that have to do with a name: its resolutions, and changes of the files. -/
def TemplateEvent.concerns {σ : Type} (name : TemplateName) : TemplateEvent σ → Bool
  | .resolve other => other == name
  | .change _ => true

namespace FileTemplates

variable {σ : Type}

/-- Resolve templates while the files change. -/
def resolveAmong (disk : Disk (StateM σ)) :
    List (TemplateEvent σ) → FileTemplates → StateM σ (TemplateAnswers × FileTemplates)
  | [], f => return ([], f)
  | .change s :: events, f => do
      set s
      resolveAmong disk events f
  | .resolve name :: events, f => do
      let (answer, f) ← f.resolve disk name
      let (answers, f) ← resolveAmong disk events f
      return ((name, answer) :: answers, f)

variable {disk : Disk (StateM σ)} {f f' g g' : FileTemplates} {s s' : σ}
  {name other : TemplateName} {markup : String} {answers : TemplateAnswers}
  {events : List (TemplateEvent σ)}

/-! ## One template -/

theorem kept?_keep (cached : f.isCached = true) :
    (f.keep name markup).kept? other = if other = name then some markup else f.kept? other := by
  obtain ⟨entries, cache⟩ := Option.isSome_iff_exists.1 cached
  by_cases same : other = name
  · simp [kept?, keep, cache, same]
  · simp [kept?, keep, cache, same, List.lookup_cons, beq_false_of_ne same]

theorem isCached_of_kept (kept : f.kept? name = some markup) : f.isCached = true := by
  cases cache : f.cache with
  | none => simp [kept?, cache] at kept
  | some entries => simp [isCached, cache]

theorem resolve_of_kept (kept : f.kept? name = some markup) :
    f.resolve disk name s = ((.ok markup, f), s) := by
  rw [resolve, kept]
  rfl

/-- What an answer adds to what is kept. -/
def remember (f : FileTemplates) (name : TemplateName) : Except ViewError String → FileTemplates
  | .ok markup => f.keep name markup
  | .error _ => f

theorem resolve_of_unkept {read : Except FileFault String} (unkept : f.kept? name = none)
    (ran : disk.readText (f.path name) s = (read, s')) :
    f.resolve disk name s = ((f.answer name read, f.remember name (f.answer name read)), s') := by
  simp only [resolve, unkept, bind, StateT.bind, ran]
  cases f.answer name read <;> rfl

/-- What is kept is the answer. -/
theorem resolverAt_of_kept (kept : f.kept? name = some markup) :
    f.resolverAt disk s name = .ok markup := by
  rw [resolverAt, StateT.run, resolve_of_kept kept]

/-- What is not kept is answered as without a cache. -/
theorem resolverAt_of_unkept (unkept : f.kept? name = none) :
    f.resolverAt disk s name = (uncached f.root).resolverAt disk s name := by
  obtain ⟨⟨read, s'⟩, ran⟩ : ∃ outcome, disk.readText (f.path name) s = outcome := ⟨_, rfl⟩
  have ran' : disk.readText ((uncached f.root).path name) s = (read, s') := ran
  rw [resolverAt, resolverAt, StateT.run, StateT.run, resolve_of_unkept unkept ran,
    resolve_of_unkept rfl ran']
  cases read <;> rfl

/-- What is kept after an answer: what was kept before, and the answer if it is a text. -/
structure Remembers (f : FileTemplates) (answers : TemplateAnswers) (f' : FileTemplates) :
    Prop where
  root : f'.root = f.root
  isCached : f'.isCached = f.isCached
  kept (cached : f.isCached = true) (name : TemplateName) :
    f'.kept? name = (f.kept? name).or (answers.firstText name)

theorem Remembers.refl (f : FileTemplates) : Remembers f [] f := by
  refine ⟨rfl, rfl, fun _ name => ?_⟩
  rw [TemplateAnswers.firstText, List.findSome?_nil, Option.or_none]

theorem remembers_of_kept (kept : f.kept? name = some markup) :
    Remembers f [(name, .ok markup)] f := by
  refine ⟨rfl, rfl, fun _ other => ?_⟩
  by_cases same : other = name
  · rw [same, kept, Option.some_or]
  · simp [TemplateAnswers.firstText, Ne.symm same]

theorem remembers_of_unkept (unkept : f.kept? name = none) (answer : Except ViewError String) :
    Remembers f [(name, answer)] (f.remember name answer) := by
  cases answer with
  | error e =>
      refine ⟨rfl, rfl, fun _ other => ?_⟩
      simp [remember, TemplateAnswers.firstText, Except.toOption]
  | ok markup =>
      refine ⟨rfl, ?_, fun cached other => ?_⟩
      · cases cache : f.cache <;> simp [isCached, remember, keep, cache]
      · rw [remember, kept?_keep cached]
        by_cases same : other = name
        · simp [TemplateAnswers.firstText, same, unkept, Except.toOption]
        · simp [TemplateAnswers.firstText, same, Ne.symm same]

/-- **One resolution**: the files stay as they are, and what is remembered is the answer. -/
theorem resolve_run (quiet : ∀ path s, (disk.readText path s).2 = s) (f : FileTemplates)
    (name : TemplateName) (s : σ) :
    ∃ f', f.resolve disk name s = ((f.resolverAt disk s name, f'), s) ∧
      Remembers f [(name, f.resolverAt disk s name)] f' := by
  cases kept : f.kept? name with
  | some markup =>
      refine ⟨f, ?_, ?_⟩
      · rw [resolve_of_kept kept, resolverAt_of_kept kept]
      · rw [resolverAt_of_kept kept]
        exact remembers_of_kept kept
  | none =>
      have ran : disk.readText (f.path name) s = ((disk.readText (f.path name) s).1, s) :=
        Prod.ext rfl (quiet _ _)
      have resolved := resolve_of_unkept kept ran
      have answer : f.resolverAt disk s name = f.answer name (disk.readText (f.path name) s).1 := by
        rw [resolverAt, StateT.run, resolved]
      rw [answer]
      exact ⟨_, resolved, remembers_of_unkept kept _⟩

/-! ## Many templates -/

theorem Remembers.trans {later : TemplateAnswers} {f'' : FileTemplates}
    (first : Remembers f answers f') (second : Remembers f' later f'') :
    Remembers f (answers ++ later) f'' := by
  refine ⟨second.root.trans first.root, second.isCached.trans first.isCached, fun cached name => ?_⟩
  have cached' : f'.isCached = true := first.isCached.trans cached
  rw [second.kept cached', first.kept cached, Option.or_assoc, TemplateAnswers.firstText,
    TemplateAnswers.firstText, TemplateAnswers.firstText, List.findSome?_append]

theorem resolveAmong_cons {answer : Except ViewError String}
    (one : f.resolve disk name s = ((answer, f'), s')) :
    resolveAmong disk (.resolve name :: events) f s =
      (((name, answer) :: (resolveAmong disk events f' s').1.1,
        (resolveAmong disk events f' s').1.2), (resolveAmong disk events f' s').2) := by
  simp only [resolveAmong, bind, StateT.bind, one]
  rfl

theorem resolveAmong_append (first later : List (TemplateEvent σ)) :
    resolveAmong disk (first ++ later) f s =
      let before := resolveAmong disk first f s
      let after := resolveAmong disk later before.1.2 before.2
      ((before.1.1 ++ after.1.1, after.1.2), after.2) := by
  induction first generalizing f s with
  | nil => rfl
  | cons event first ih =>
      cases event with
      | change s₁ => exact ih
      | resolve name =>
          obtain ⟨⟨⟨answer, f₁⟩, s₁⟩, one⟩ : ∃ outcome, f.resolve disk name s = outcome := ⟨_, rfl⟩
          rw [List.cons_append, resolveAmong_cons one, resolveAmong_cons one, ih]
          rfl

/-- **Any resolutions**: what is remembered is what was answered. -/
theorem remembers_resolveAmong (quiet : ∀ path s, (disk.readText path s).2 = s)
    (events : List (TemplateEvent σ)) (f : FileTemplates) (s : σ) :
    let after := resolveAmong disk events f s
    Remembers f after.1.1 after.1.2 := by
  induction events generalizing f s with
  | nil => exact .refl f
  | cons event events ih =>
      cases event with
      | change s₁ => exact ih f s₁
      | resolve name =>
          obtain ⟨f₁, one, remembers⟩ := resolve_run quiet f name s
          rw [resolveAmong_cons one]
          exact remembers.trans (ih f₁ s)

/-! ## Other names -/

/-- Two resolvers that cannot be told apart by a name. -/
structure Alike (name : TemplateName) (f g : FileTemplates) : Prop where
  root : f.root = g.root
  isCached : f.isCached = g.isCached
  kept : f.kept? name = g.kept? name

theorem Alike.resolverAt (alike : Alike name f g) :
    f.resolverAt disk s name = g.resolverAt disk s name := by
  cases kept : g.kept? name with
  | some markup => rw [resolverAt_of_kept kept, resolverAt_of_kept (alike.kept.trans kept)]
  | none =>
      rw [resolverAt_of_unkept kept, resolverAt_of_unkept (alike.kept.trans kept), alike.root]

theorem Alike.remembers (alike : Alike name f g) (cached : g.isCached = true)
    (ofF : Remembers f answers f') (ofG : Remembers g answers g') : Alike name f' g' := by
  refine ⟨?_, ?_, ?_⟩
  · rw [ofF.root, alike.root, ofG.root]
  · rw [ofF.isCached, alike.isCached, ofG.isCached]
  · rw [ofF.kept (alike.isCached.trans cached), alike.kept, ofG.kept cached]

theorem Alike.of_other (alike : Alike name f g) (cached : g.isCached = true)
    {answer : Except ViewError String} (ne : other ≠ name)
    (ofF : Remembers f [(other, answer)] f') : Alike name f' g := by
  refine ⟨ofF.root.trans alike.root, ofF.isCached.trans alike.isCached, ?_⟩
  rw [ofF.kept (alike.isCached.trans cached), alike.kept]
  simp [TemplateAnswers.firstText, ne]

/-- The answers for a name are those of the run with the resolutions of that name only. -/
theorem answers_for_name (quiet : ∀ path s, (disk.readText path s).2 = s)
    (alike : Alike name f g) (cached : g.isCached = true) :
    ((resolveAmong disk events f s).1.1.filter fun a => a.1 == name) =
      (resolveAmong disk (events.filter (·.concerns name)) g s).1.1 := by
  induction events generalizing f g s with
  | nil => rfl
  | cons event events ih =>
      cases event with
      | change s₁ => exact ih alike cached
      | resolve asked =>
          obtain ⟨f₁, one, remembers⟩ := resolve_run quiet f asked s
          by_cases same : asked = name
          · subst same
            obtain ⟨g₁, one', remembers'⟩ := resolve_run quiet g asked s
            rw [← alike.resolverAt] at remembers' one'
            have others := ih (s := s) (alike.remembers cached remembers remembers')
              (remembers'.isCached.trans cached)
            have kept : (TemplateEvent.resolve asked : TemplateEvent σ).concerns asked = true :=
              beq_self_eq_true asked
            rw [List.filter_cons, if_pos kept, resolveAmong_cons one, resolveAmong_cons one',
              List.filter_cons, if_pos (beq_self_eq_true asked), others]
          · have others := ih (s := s) (alike.of_other cached same remembers) cached
            have dropped : (TemplateEvent.resolve asked : TemplateEvent σ).concerns name = false :=
              beq_false_of_ne same
            rw [List.filter_cons, dropped, resolveAmong_cons one, List.filter_cons,
              beq_false_of_ne same]
            exact others

/-! ## Files that do not change -/

/-- What is kept is what would be read. -/
def Truthful (disk : Disk (StateM σ)) (f : FileTemplates) (s : σ) : Prop :=
  ∀ name markup, f.kept? name = some markup → (uncached f.root).resolverAt disk s name = .ok markup

theorem Truthful.resolverAt (truthful : Truthful disk f s) (name : TemplateName) :
    f.resolverAt disk s name = (uncached f.root).resolverAt disk s name := by
  cases kept : f.kept? name with
  | some markup => rw [resolverAt_of_kept kept, truthful name markup kept]
  | none => exact resolverAt_of_unkept kept

theorem Truthful.remembers (truthful : Truthful disk f s)
    (remembers : Remembers f [(name, f.resolverAt disk s name)] f') : Truthful disk f' s := by
  intro other markup kept
  rw [remembers.root]
  have cached : f.isCached = true := by
    rw [← remembers.isCached]
    exact isCached_of_kept kept
  rw [remembers.kept cached] at kept
  cases before : f.kept? other with
  | some markup' =>
      rw [before, Option.some_or] at kept
      cases kept
      exact truthful other markup before
  | none =>
      rw [before, Option.none_or] at kept
      obtain ⟨same, answered⟩ :
          name = other ∧ (f.resolverAt disk s name).toOption = some markup := by
        simpa [TemplateAnswers.firstText] using kept
      rw [truthful.resolverAt] at answered
      rw [← same]
      cases answer : (uncached f.root).resolverAt disk s name with
      | error e =>
          rw [answer] at answered
          cases answered
      | ok markup' =>
          rw [answer] at answered
          cases answered
          rfl

theorem truthful_cached (disk : Disk (StateM σ)) (root : String) (s : σ) :
    Truthful disk (cached root) s := by
  intro name markup kept
  cases kept

theorem truthful_uncached (disk : Disk (StateM σ)) (root : String) (s : σ) :
    Truthful disk (uncached root) s := by
  intro name markup kept
  cases kept

/-- As long as the files stay as they are, templates are answered as they are read. -/
theorem answers_of_truthful (quiet : ∀ path s, (disk.readText path s).2 = s)
    (truthful : Truthful disk f s) (names : List TemplateName) :
    (resolveAmong disk (names.map .resolve) f s).1.1 =
      names.map fun name => (name, (uncached f.root).resolverAt disk s name) := by
  induction names generalizing f with
  | nil => rfl
  | cons name names ih =>
      obtain ⟨f₁, one, remembers⟩ := resolve_run quiet f name s
      rw [List.map_cons, List.map_cons, resolveAmong_cons one, ih (truthful.remembers remembers),
        truthful.resolverAt, remembers.root]

end FileTemplates

/-- The templates registered up front are those in the files: each file is a text that is
registered, or it is missing as its template is. -/
def FixedTemplates.Mirrors {σ : Type} (fixed : FixedTemplates) (disk : Disk (StateM σ))
    (root : String) (s : σ) : Prop :=
  ∀ name : TemplateName,
    match (disk.readText (joinPath root name.fileName) s).1 with
    | .ok markup => fixed.entries.lookup name = some markup
    | .error fault => fault = .notFound ∧ fixed.entries.lookup name = none

open FileTemplates in
theorem FixedTemplates.Mirrors.resolve_eq {σ : Type} {fixed : FixedTemplates}
    {disk : Disk (StateM σ)} {root : String} {s : σ} (mirrors : fixed.Mirrors disk root s)
    (name : TemplateName) : (uncached root).resolverAt disk s name = fixed.resolve name := by
  have mirrored := mirrors name
  obtain ⟨⟨read, s'⟩, ran⟩ :
    ∃ outcome, disk.readText ((uncached root).path name) s = outcome := ⟨_, rfl⟩
  have read_eq : (disk.readText (joinPath root name.fileName) s).1 = read := congrArg Prod.fst ran
  rw [read_eq] at mirrored
  rw [resolverAt, StateT.run, resolve_of_unkept rfl ran, FixedTemplates.resolve]
  cases read with
  | ok markup =>
      rw [mirrored]
      rfl
  | error fault =>
      obtain ⟨rfl, missing⟩ := mirrored
      rw [missing]
      rfl

theorem TemplateName.isFileName (name : TemplateName) : IsFileName name.fileName where
  unparted := by cases name <;> decide
  moves := by cases name <;> decide
  onward := by cases name <;> decide
  short := by cases name <;> decide

/-- In a directory, a file is missing if there is nothing of its name. -/
theorem FixedTemplates.mirrors_of_items {fixed : FixedTemplates} {t : FileTree} {cwd : Place}
    {root : String} (opened : t.opens cwd root = true)
    (checked : ∀ name : TemplateName, FileTree.checkPath (joinPath root name.fileName) = .ok ())
    (items : ∀ name : TemplateName,
      match t.item? (FileTree.home cwd root ++ [name.fileName]) with
      | some (.file bytes) => String.fromUTF8? bytes ≠ none ∧
          fixed.entries.lookup name = String.fromUTF8? bytes
      | some .directory => False
      | none => fixed.entries.lookup name = none) :
    fixed.Mirrors (FileTree.disk cwd) root t := by
  intro name
  have items := items name
  show match t.readText cwd (joinPath root name.fileName) with | .ok _ => _ | .error _ => _
  cases item : t.item? (FileTree.home cwd root ++ [name.fileName]) with
  | none =>
      rw [item] at items
      rw [FileTree.readText_of_missing name.isFileName (checked name) opened item]
      exact ⟨rfl, items⟩
  | some found =>
      rw [item] at items
      cases found with
      | directory => cases items
      | file bytes =>
          obtain ⟨text, decoded⟩ := Option.ne_none_iff_exists'.1 items.1
          have read : t.readText cwd (joinPath root name.fileName) = .ok text :=
            (FileTree.readText_eq_ok_iff name.isFileName).2
              ⟨checked name, opened, bytes, item, decoded⟩
          rw [read]
          exact items.2.trans decoded

namespace FileTemplates

/-- **A cache of templates can only be told by stale texts.**  Whatever happens to the files, a name
is answered as without a cache until that gives a text, and with that text from then on; the answers
for a name do not depend on what else is resolved; and as long as the files stay as they are, any
names are answered as without a cache, and as by templates registered up front if each file is one
of them or missing. -/
theorem cached_answers {σ : Type} {disk : Disk (StateM σ)}
    (quiet : ∀ path s, (disk.readText path s).2 = s) (root : String) (s : σ) :
    (∀ (events : List (TemplateEvent σ)) (name : TemplateName),
      let before := resolveAmong disk events (cached root) s
      (resolveAmong disk (events ++ [.resolve name]) (cached root) s).1.1 =
        before.1.1 ++ [(name,
          match before.1.1.firstText name with
          | some markup => .ok markup
          | none => (uncached root).resolverAt disk before.2 name)]) ∧
    (∀ (events : List (TemplateEvent σ)) (name : TemplateName),
      ((resolveAmong disk events (cached root) s).1.1.filter fun a => a.1 == name) =
        (resolveAmong disk (events.filter (·.concerns name)) (cached root) s).1.1) ∧
    (∀ names : List TemplateName,
      let answers f := (resolveAmong disk (names.map .resolve) f s).1.1
      answers (cached root) = answers (uncached root) ∧
        ∀ fixed : FixedTemplates, fixed.Mirrors disk root s →
          answers (cached root) = names.map fun name => (name, fixed.resolve name)) := by
  refine ⟨?_, ?_, ?_⟩
  · intro events name before
    have remembers := remembers_resolveAmong quiet events (cached root) s
    obtain ⟨⟨⟨answers, f⟩, s'⟩, ran⟩ :
      ∃ outcome, resolveAmong disk events (cached root) s = outcome := ⟨_, rfl⟩
    rw [ran] at remembers
    simp only [before, resolveAmong_append, ran]
    obtain ⟨f', one, -⟩ := resolve_run quiet f name s'
    have kept : f.kept? name = answers.firstText name := remembers.kept rfl name
    rw [resolveAmong_cons one]
    cases first : answers.firstText name with
    | some markup =>
        rw [resolverAt_of_kept (kept.trans first)]
        rfl
    | none =>
        rw [resolverAt_of_unkept (kept.trans first), remembers.root]
        rfl
  · intro events name
    exact answers_for_name quiet ⟨rfl, rfl, rfl⟩ rfl
  · intro names answers
    have asRead := answers_of_truthful quiet (truthful_cached disk root s) names
    have asRead' := answers_of_truthful quiet (truthful_uncached disk root s) names
    refine ⟨asRead.trans asRead'.symm, ?_⟩
    intro fixed mirrors
    apply asRead.trans
    apply List.map_congr_left
    intro name _
    rw [← mirrors.resolve_eq]
    rfl

/-- A file that comes late, changes and goes away again is missing, and then has the text that it
had when it was first read.  As long as it stays, it is as good as registered. -/
theorem cached_answers_of_late_file :
    let written (text : String) : FileTree := ⟨[(["error.html"], .file text.toUTF8)]⟩
    let events : List (TemplateEvent FileTree) :=
      [.resolve .error, .change (written "v1"), .resolve .error, .change (written "v2"),
        .resolve .error, .change .empty]
    let answers (events : List (TemplateEvent FileTree)) (t : FileTree) : TemplateAnswers :=
      (resolveAmong (FileTree.disk []) events (cached "") t).1.1
    ((answers events .empty).map fun a => a.2.toOption) = [none, some "v1", some "v1"] ∧
      answers (events ++ [.resolve .error]) .empty =
        answers events .empty ++ [(.error, .ok "v1")] ∧
      answers [.resolve .error, .resolve .breadcrumb, .resolve .error] (written "v1") =
        [(.error, .ok "v1"), (.breadcrumb, .error (.templateNotFound "/breadcrumb.html")),
          (.error, .ok "v1")] := by
  intro written events answers
  have quiet : ∀ path t, ((FileTree.disk []).readText path t).2 = t := fun _ _ => rfl
  have first : (answers events .empty).firstText .error = some "v1" := by decide +kernel
  have next := (cached_answers quiet "" .empty).1 events .error
  have mirrors : (FixedTemplates.empty.register .error "v1").Mirrors (FileTree.disk []) ""
      (written "v1") := by
    apply FixedTemplates.mirrors_of_items
    · decide +kernel
    · intro name
      cases name <;> decide +kernel
    · intro name
      cases name with
      | error => exact ⟨by decide +kernel, by decide +kernel⟩
      | _ => rfl
  have unchanged := (cached_answers quiet "" (written "v1")).2.2 [.error, .breadcrumb, .error]
  refine ⟨by decide +kernel, next.trans ?_, unchanged.2 _ mirrors⟩
  rw [first]

end FileTemplates

end ConsoleView
