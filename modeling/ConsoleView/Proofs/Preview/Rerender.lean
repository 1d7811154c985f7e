/-
# ConsoleView.Proofs.Preview.Rerender -- the scope of a template as a fixture

A template component reads its inputs and writes them into the scope of its
template, under the names it has read them from.  What it writes is read back
as it was, a default included, and the open groups, once in order, stay in that
order.  So the scope of a template, taken as a fixture, makes the same template
with the same scope (`render_again`).
-/
import ConsoleView.Proofs.GroupVisibility.Search
import ConsoleView.Proofs.InstanceSummary.Mount
import ConsoleView.Proofs.Records.RoundTrip
import ConsoleView.Proofs.Preview.Inputs

namespace ConsoleView

set_option autoImplicit false

open Json

/-! ## Scopes and inputs -/

/-- A scope is the scope of the object it is written as. -/
theorem Scope.ofJson?_toJson (scope : Scope) : Scope.ofJson? scope.toJson = some scope := by
  have distinct : (scope.values.entries.map Prod.fst).Nodup :=
    scope.values.ascending.imp String.ne_of_lt
  exact congrArg some (Scope.ext_get? (NameMap.get?_ofList distinct))

/-- An input is read from a scope that binds what its codec has written. -/
theorem inputOr_written {α : Type} {scope : Scope} {name : String} {codec : Codec α} {a : α}
    (bound : scope.get? name = some (codec.write a)) (shown : codec.write a ≠ .null)
    (roundTrips : codec.RoundTrips a) (default : α) :
    inputOr scope name codec default = .ok a := by
  have present : (codec.write a).isNull = false := by
    cases written : codec.write a with
    | null => exact absurd written shown
    | _ => rfl
  have decoded : codec.decode (codec.write a) = .ok a := Codec.decode_eq_ok.2 roundTrips
  rw [inputOr_eq, Scope.orNull, bound]
  simp only [Option.getD_some, present, Bool.false_eq_true, if_false, decoded]

/-- An input is its default, or has been read. -/
theorem read_of_inputOr {α : Type} {fixture : Scope} {name : String} {codec : Codec α}
    {default a : α} (read : inputOr fixture name codec default = .ok a) :
    a = default ∨ ∃ j, codec.read j = .ok a := by
  rw [inputOr_eq] at read
  split at read
  · exact .inl (Except.ok.inj read).symm
  · exact .inr ⟨fixture.orNull name, Codec.decode_eq_ok.1 read⟩

/-! ## Open groups -/

/-- The open groups are a seed of themselves. -/
theorem GroupVisibility.seeded_visible (v : GroupVisibility) : seeded (some v.visible) = v := by
  have same : (seeded (some v.visible)).visible = v.visible :=
    ascending_ext (seeded _).ascending v.ascending fun _ => mem_visible_seeded
  generalize seeded (some v.visible) = w at same ⊢
  obtain ⟨xs, _⟩ := w
  obtain ⟨ys, _⟩ := v
  obtain rfl : xs = ys := same
  rfl

/-- Positions that have been read open groups whose positions can be read again. -/
theorem roundTrips_seeded {fixture : Scope} {initial : Option (List Nat)}
    (read : inputOr fixture "visibleGroups" (.option (.list .index)) none = .ok initial) :
    (Codec.option (.list .index)).RoundTrips (some (GroupVisibility.seeded initial).visible) := by
  refine Codec.roundTrips_some (Codec.shown_list _) (Codec.roundTrips_list fun i member => ?_)
  cases initial with
  | none => cases member
  | some positions =>
      have named : i ∈ positions := GroupVisibility.mem_visible_seeded.1 member
      obtain absent | ⟨j, given⟩ := read_of_inputOr read
      · cases absent
      · exact Codec.roundTrips_of_read_list (Codec.read_of_read_option given)
          (fun _ _ => Codec.roundTrips_of_read_index) named

/-! ## What the views bind -/

theorem get?_groupSummary (groups : List ConfigGroup) (v : GroupVisibility) :
    (groupSummary groups v).scope.get? "groups" =
        some ((Codec.list ConfigGroup.codec).write groups) ∧
      (groupSummary groups v).scope.get? "visibleGroups" =
        some ((Codec.option (.list .index)).write (some v.visible)) := by
  constructor
  · rw [groupSummary, Scope.bind, Scope.get?_insert, if_neg (by decide), Scope.bind,
      Scope.get?_insert, if_pos rfl]
  · rw [groupSummary, Scope.bind, Scope.get?_insert, if_pos rfl]
    rfl

theorem get?_timeDisplay (timestamp : Timestamp) :
    (timeDisplay timestamp).scope.get? "timestamp" = some (Timestamp.codec.write timestamp) := by
  let alone := Scope.empty.bind "timestamp" Timestamp.codec timestamp
  have bound : alone.get? "timestamp" = some (Timestamp.codec.write timestamp) := by
    show (Scope.empty.insert "timestamp" _).get? "timestamp" = _
    rw [Scope.get?_insert, if_pos rfl]
  cases text : timestamp.utc? with
  | none => simpa only [timeDisplay, text] using bound
  | some utc =>
      simp only [timeDisplay, text]
      show (alone.insert "utc" (.string utc)).get? "timestamp" = _
      rw [Scope.get?_insert, if_neg (by decide), bound]

/-! ## Drafts -/

/-- A draft of a component needs no template, or the scope of its template makes it again. -/
def Draft.IsSettled (c : Component) (settings : Settings) : Draft → Prop
  | .ready output => output.kind ≠ "template"
  | .awaiting given view => draftComponent c view.scope settings = .ok (.awaiting given view)

/-- A component that writes its one input under the name it reads it from. -/
theorem draft_again {α : Type} {codec : Codec α} (lawful : codec.Lawful) (shown : codec.Shown)
    {name component : String} {default : α} {draw : α → TemplateView}
    (bound : ∀ a, (draw a).scope.get? name = some (codec.write a)) {fixture : Scope} {d : Draft}
    (drafted : (do return Draft.awaiting component (draw (← inputOr fixture name codec default))) =
      (.ok d : Except ViewError Draft)) :
    ∃ view, d = .awaiting component view ∧
      (do return Draft.awaiting component (draw (← inputOr view.scope name codec default))) =
        (.ok (.awaiting component view) : Except ViewError Draft) := by
  obtain ⟨a, -, drawn⟩ := ok_of_bind drafted
  obtain rfl := Except.ok.inj drawn
  refine ⟨draw a, rfl, ?_⟩
  rw [inputOr_written (bound a) (shown a) (lawful a)]
  rfl

theorem draftGroups_again {fixture : Scope} {view : TemplateView}
    (drafted : draftGroups fixture = .ok view) : draftGroups view.scope = .ok view := by
  rw [draftGroups] at drafted
  obtain ⟨groups, -, drafted⟩ := ok_of_bind drafted
  obtain ⟨initial, read, drafted⟩ := ok_of_bind drafted
  obtain rfl := Except.ok.inj drafted
  obtain ⟨groupsBound, openBound⟩ := get?_groupSummary groups (.seeded initial)
  have listed := inputOr_written groupsBound (Codec.shown_list _ groups)
    (Codec.lawful_list lawful_configGroup groups) []
  have opened := inputOr_written openBound (Codec.shown_list _ _) (roundTrips_seeded read) none
  rw [draftGroups, listed, opened]
  show Except.ok (groupSummary groups (.seeded (some _))) = _
  rw [GroupVisibility.seeded_visible]

/-- **The scope of a template makes the draft that it is from.** -/
theorem isSettled_draftComponent {c : Component} {fixture : Scope} {settings : Settings}
    {d : Draft} (drafted : draftComponent c fixture settings = .ok d) : d.IsSettled c settings := by
  have link : ∀ v : LinkVariant, draftLink v.component v fixture settings = .ok d →
      d.IsSettled c settings := by
    intro v drawn
    rw [draftLink] at drawn
    obtain ⟨target, -, drawn⟩ := ok_of_bind drawn
    obtain rfl := Except.ok.inj drawn
    show "markup" ≠ "template"
    decide
  cases c with
  | roleLink => exact link .role drafted
  | roleEnvLink => exact link .roleEnv drafted
  | jobLink => exact link .job drafted
  | taskLink => exact link .task drafted
  | taskStatus | schedulingDetail =>
      cases drafted
      show PreviewOutput.kind _ ≠ "template"
      decide
  | breadcrumb | error | taskSandboxLink =>
      cases drafted
      rfl
  | groupSummary =>
      rw [draftComponent] at drafted
      obtain ⟨view, drawn, drafted⟩ := ok_of_bind drafted
      obtain rfl := Except.ok.inj drafted
      show draftComponent .groupSummary view.scope settings = _
      rw [draftComponent, draftGroups_again drawn]
      rfl
  | configSummary =>
      obtain ⟨view, rfl, again⟩ :=
        draft_again lawful_configGroup (Codec.shown_record _) (fun _ => rfl) drafted
      exact again
  | timeDisplay =>
      obtain ⟨view, rfl, again⟩ :=
        draft_again lawful_timestamp Codec.shown_timestamp get?_timeDisplay drafted
      exact again
  | updateSettings =>
      obtain ⟨view, rfl, again⟩ :=
        draft_again lawful_updateSettings (Codec.shown_record _) (fun _ => rfl) drafted
      exact again
  | instanceSummary =>
      rw [draftComponent, InstanceSummary.draftInstances_eq] at drafted
      obtain ⟨i, -, rfl⟩ := ok_of_map drafted
      show "markup" ≠ "template"
      decide

/-! ## Rendering -/

/-- A template output shows the scope of the view that awaited the template. -/
theorem toJson_of_finish {resolve : Resolver} {given component url content : String}
    {view : TemplateView} {shown : Json}
    (finished : (Draft.awaiting given view).finish resolve =
      .ok (.template component url content shown)) : view.scope.toJson = shown := by
  rw [finish_awaiting] at finished
  obtain ⟨markup, -, same⟩ := ok_of_map finished
  cases same
  rfl

/-- **Rendering what was rendered changes nothing.**  The scope of a template output is the object of
a scope, and this scope as a fixture gives the same output under the same name. -/
theorem render_again (settings : Settings) (resolve : Resolver) (name : String) (fixture : Scope)
    (component url content : String) (shown : Json)
    (rendered : render name fixture settings resolve = .ok (.template component url content shown)) :
    ∃ scope : Scope, Scope.ofJson? shown = some scope ∧
      render name scope settings resolve = .ok (.template component url content shown) := by
  cases found : resolveName name with
  | none =>
      rw [render, draft, found] at rendered
      cases rendered
  | some d =>
      have row : d = d.component.descriptor := descriptor_of_mem (mem_of_resolveName found)
      rw [row] at found
      rw [render_of_resolved found] at rendered
      obtain ⟨drawn, drafted, finished⟩ := ok_of_bind rendered
      have settled := isSettled_draftComponent drafted
      cases drawn with
      | ready output =>
          obtain rfl := Except.ok.inj finished
          exact absurd rfl settled
      | awaiting given view =>
          refine ⟨view.scope, toJson_of_finish finished ▸ view.scope.ofJson?_toJson, ?_⟩
          rw [render_of_resolved found, settled]
          exact finished

/-- Open groups given out of order and twice are shown in order, and stay as shown. -/
theorem again_of_unsorted_groups :
    let templates := FixedTemplates.empty.register .groupSummary "<ul></ul>"
    let fixture := Scope.empty.insert "visibleGroups" (.array [.int 2, .int 0, .int 2])
    let shown := Json.object [("groups", .array []), ("visibleGroups", .array [.int 0, .int 2])]
    let output := PreviewOutput.template "groupSummary" "/groupSummary.html" "<ul></ul>" shown
    render "group-summary" fixture {} templates.resolve = .ok output ∧
      ∃ scope : Scope, Scope.ofJson? shown = some scope ∧
        render "group-summary" scope {} templates.resolve = .ok output := by
  intro templates fixture shown output
  have found : resolveName "group-summary" = some Component.groupSummary.descriptor := by
    decide +kernel
  have rendered : render "group-summary" fixture {} templates.resolve = .ok output := by
    rw [render_of_resolved found]
    rfl
  exact ⟨rendered, render_again {} templates.resolve _ fixture _ _ _ shown rendered⟩

end ConsoleView
