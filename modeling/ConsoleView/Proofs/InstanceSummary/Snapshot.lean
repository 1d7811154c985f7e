/-
# ConsoleView.Proofs.InstanceSummary.Snapshot -- what a mount has shown stays

Any number of components share one document.  Each is mounted, once or in vain
or again, and is bound to other values; in between the document is called as a
host calls it.  A mount fixes what a component shows: nothing that is done
outside the titles and grids changes them (`MountedGrid.Shows.after`), and the
component itself has no hold on them any more.  So what holds right after the
mount (`InstanceInputs.Built.shows`) holds at every later point (`run_snapshot`).

Which nodes may be targets is asked at each step (`Apart`), as a mount adds to
the nodes that are taken.
-/
import ConsoleView.Proofs.InstanceSummary.Mount
import Mathlib.Data.List.FinRange
import Mathlib.Logic.Function.Basic

namespace ConsoleView

set_option autoImplicit false

/-! ## Components that share a document -/

/-- Components, and the document they are mounted into. -/
structure SharedDocument (n : Nat) where
  document : Document
  summary : Fin n → InstanceSummary

/-- What can be done with them: a component is mounted or bound to other values, or the document is
called. -/
inductive SharedStep (n : Nat) where
  | mount (k : Fin n) (anchor : NodeId)
  | setInstances (k : Fin n) (instances : List InstanceRecord)
  | setStats (k : Fin n) (stats : InstanceStats)
  | call (c : Call)

namespace SharedStep

variable {n : Nat}

def instances? (k : Fin n) : SharedStep n → Option (List InstanceRecord)
  | setInstances j instances => if j = k then some instances else none
  | _ => none

def stats? (k : Fin n) : SharedStep n → Option InstanceStats
  | setStats j stats => if j = k then some stats else none
  | _ => none

end SharedStep

namespace SharedDocument

variable {n : Nat}

/-- Components that are not mounted yet. -/
def opened (d : Document) (inputs : Fin n → InstanceInputs) : SharedDocument n where
  document := d
  summary k := { inputs := inputs k }

def step (s : SharedDocument n) : SharedStep n → SharedDocument n
  | .mount k anchor =>
      let outcome := (s.summary k).mount s.document anchor
      { document := outcome.2.2, summary := Function.update s.summary k outcome.2.1 }
  | .setInstances k instances =>
      { s with summary := Function.update s.summary k ((s.summary k).setInstances instances) }
  | .setStats k stats =>
      { s with summary := Function.update s.summary k ((s.summary k).setStats stats) }
  | .call c => { s with document := c.after s.document }

def run (s : SharedDocument n) (steps : List (SharedStep n)) : SharedDocument n :=
  steps.foldl step s

def target? (s : SharedDocument n) : SharedStep n → Option Nat
  | .mount k anchor => if (s.summary k).mounted.isNone then some anchor else none
  | .call c => c.target? s.document
  | _ => none

/-- The nodes of the titles and grids that have been mounted. -/
def taken (s : SharedDocument n) : List Nat :=
  (List.finRange n).flatMap fun k =>
    match (s.summary k).mounted with
    | none => []
    | some m => s.document.subtree m.title ++ s.document.subtree m.grid

/-- No step of a run has its target in a title or grid that has been mounted before. -/
def Apart (s : SharedDocument n) : List (SharedStep n) → Prop
  | [] => True
  | step :: rest => (∀ t ∈ s.target? step, t ∉ s.taken) ∧ (s.step step).Apart rest

instance decidableApart (s : SharedDocument n) :
    (steps : List (SharedStep n)) → Decidable (s.Apart steps)
  | [] => isTrue trivial
  | step :: rest =>
      have := decidableApart (s.step step) rest
      inferInstanceAs (Decidable ((∀ t ∈ s.target? step, t ∉ s.taken) ∧ (s.step step).Apart rest))

theorem run_append (s : SharedDocument n) (front back : List (SharedStep n)) :
    s.run (front ++ back) = (s.run front).run back :=
  List.foldl_append

theorem apart_append {s : SharedDocument n} {front back : List (SharedStep n)} :
    s.Apart (front ++ back) ↔ s.Apart front ∧ (s.run front).Apart back := by
  induction front generalizing s with
  | nil => simp [Apart, run]
  | cons step rest ih =>
      rw [List.cons_append, Apart, Apart, ih, and_assoc]
      rfl

/-! ## What is bound -/

/-- What was bound last to a component, where nothing was bound what was there. -/
def latest (inputs : InstanceInputs) (k : Fin n) (steps : List (SharedStep n)) : InstanceInputs where
  instances := (steps.filterMap (SharedStep.instances? k)).getLast?.getD inputs.instances
  size := inputs.size
  stats := (steps.filterMap (SharedStep.stats? k)).getLast?.getD inputs.stats

end SharedDocument

namespace InstanceSummary

/-- A mount, whether or not it succeeds, leaves what is bound. -/
theorem inputs_mount (s : InstanceSummary) (d : Document) (anchor : Nat) :
    (s.mount d anchor).2.1.inputs = s.inputs := by
  unfold mount
  split
  · rfl
  · split
    · rfl
    · split
      · rfl
      · split <;> rfl

end InstanceSummary

namespace SharedDocument

variable {n : Nat}

theorem inputs_step (s : SharedDocument n) (k : Fin n) (step : SharedStep n) :
    ((s.step step).summary k).inputs =
      { instances := (step.instances? k).getD (s.summary k).inputs.instances
        size := (s.summary k).inputs.size
        stats := (step.stats? k).getD (s.summary k).inputs.stats } := by
  cases step with
  | mount j anchor =>
      by_cases same : k = j
      · subst same
        show (Function.update s.summary k _ k).inputs = _
        rw [Function.update_self, InstanceSummary.inputs_mount]
        rfl
      · show (Function.update s.summary j _ k).inputs = _
        rw [Function.update_of_ne same]
        rfl
  | setInstances j instances =>
      by_cases same : k = j
      · subst same
        show (Function.update s.summary k _ k).inputs = _
        simp [InstanceSummary.setInstances, SharedStep.instances?, SharedStep.stats?]
      · show (Function.update s.summary j _ k).inputs = _
        simp [Function.update_of_ne same, SharedStep.instances?, SharedStep.stats?, Ne.symm same]
  | setStats j stats =>
      by_cases same : k = j
      · subst same
        show (Function.update s.summary k _ k).inputs = _
        simp [InstanceSummary.setStats, SharedStep.instances?, SharedStep.stats?]
      · show (Function.update s.summary j _ k).inputs = _
        simp [Function.update_of_ne same, SharedStep.instances?, SharedStep.stats?, Ne.symm same]
  | call c => rfl

/-- **What is bound to a component is what was bound last.** -/
theorem inputs_run (s : SharedDocument n) (k : Fin n) (steps : List (SharedStep n)) :
    ((s.run steps).summary k).inputs = latest (s.summary k).inputs k steps := by
  induction steps generalizing s with
  | nil => rfl
  | cons step rest ih =>
      show (((s.step step).run rest).summary k).inputs = _
      rw [ih, inputs_step, latest, latest]
      cases bound : step.instances? k <;> cases bound' : step.stats? k <;>
        simp [bound, bound', List.getLast?_cons]

end SharedDocument

/-! ## What is shown -/

/-- What a mount has made shows the inputs, and all that is declarative in the grid is live, under
their scope. -/
structure MountedGrid.Shows (m : MountedGrid) (i : InstanceInputs) (d : Document) : Prop where
  title_lt : m.title < d.size
  grid_lt : m.grid < d.size
  title : d.toMarkup m.title = some i.title
  grid : d.toMarkup m.grid = some i.grid
  settled : ∀ x ∈ d.subtree m.grid, ∀ name value, d.Carries x name value → d.Live x name
  bindings : d.bindings.filter (fun b => b.node ∈ d.subtree m.grid) =
    i.grid.bindingsFrom d.bindingAttributes i.scope m.grid

namespace MountedGrid.Shows

variable {m : MountedGrid} {i : InstanceInputs} {d d' : Document}

/-- **A call outside title and grid leaves what they show**, and the nodes they have. -/
theorem after {c : Call} (shows : m.Shows i d) (forest : d.Forest)
    (outside : ∀ t, c.target? d = some t → t ∉ d.subtree m.title ++ d.subtree m.grid) :
    m.Shows i (c.after d) ∧ (c.after d).subtree m.title = d.subtree m.title ∧
      (c.after d).subtree m.grid = d.subtree m.grid := by
  by_cases succeeds : c.Succeeds d
  · obtain ⟨d', result, done⟩ := succeeds
    rw [Call.after_of_ok done]
    have offTitle : ∀ t, c.target? d = some t → t ∉ d.subtree m.title := fun t target member =>
      outside t target (List.mem_append_left _ member)
    have offGrid : ∀ t, c.target? d = some t → t ∉ d.subtree m.grid := fun t target member =>
      outside t target (List.mem_append_right _ member)
    have grown := forest.size_le done
    have sameTitle := forest.subtree_perform done shows.title_lt offTitle
    have sameGrid := forest.subtree_perform done shows.grid_lt offGrid
    have attributes : d'.bindingAttributes = d.bindingAttributes := by
      rcases forest.bindings_cases done with ⟨n, scope, -, -, rfl⟩ | ⟨-, -, same⟩
      · rfl
      · exact same
    refine ⟨?_, sameTitle, sameGrid⟩
    exact {
      title_lt := Nat.lt_of_lt_of_le shows.title_lt grown
      grid_lt := Nat.lt_of_lt_of_le shows.grid_lt grown
      title := (forest.toMarkup_perform done shows.title_lt offTitle).trans shows.title
      grid := (forest.toMarkup_perform done shows.grid_lt offGrid).trans shows.grid
      settled := by
        intro x below name value carries
        rw [sameGrid] at below
        have inside := forest.lt_of_mem_subtree shows.grid_lt below
        obtain ⟨b, live, same⟩ :=
          shows.settled x below name value ((forest.carries_perform done inside).1 carries)
        exact ⟨b, (forest.bindings_grow done).subset live, same⟩
      bindings := by
        rw [sameGrid, attributes, ← shows.bindings]
        exact forest.filter_bindings_perform done shows.settled }
  · rw [Call.after_of_error succeeds]
    exact ⟨shows, rfl, rfl⟩

/-- Calls with one target outside title and grid leave what they show. -/
theorem run {anchor : Nat} (shows : m.Shows i d) (forest : d.Forest)
    (outside : anchor ∉ d.subtree m.title ++ d.subtree m.grid) (calls : List Call)
    (targets : ∀ c ∈ calls, ∀ e t, c.target? e = some t → t = anchor) :
    m.Shows i (d.run calls) := by
  induction calls generalizing d with
  | nil => exact shows
  | cons c rest ih =>
      have here : ∀ t, c.target? d = some t → t ∉ d.subtree m.title ++ d.subtree m.grid := by
        intro t target
        rw [targets c List.mem_cons_self d t target]
        exact outside
      obtain ⟨shows', sameTitle, sameGrid⟩ := shows.after forest here
      have outside' : anchor ∉ (c.after d).subtree m.title ++ (c.after d).subtree m.grid := by
        rw [sameTitle, sameGrid]
        exact outside
      exact ih shows' (forest.run [c]) outside' fun c' member =>
        targets c' (List.mem_cons_of_mem _ member)

end MountedGrid.Shows

/-- **Right after a mount, title and grid show the inputs.** -/
theorem InstanceInputs.Built.shows {d d' : Document} {i : InstanceInputs} {m : MountedGrid}
    (built : i.Built d d' m) (reachable : d.Reachable) (forest' : d'.Forest) : m.Shows i d' := by
  have title_lt : m.title < d'.size := forest'.toMarkup_isSome_iff.1 (by rw [built.title]; rfl)
  have grid_lt : m.grid < d'.size := forest'.toMarkup_isSome_iff.1 (by rw [built.grid]; rfl)
  have onGrid : ∀ b ∈ i.grid.bindingsFrom d.bindingAttributes i.scope m.grid,
      b.node ∈ d'.subtree m.grid := by
    intro b member
    rw [← built.walk] at member
    obtain ⟨x, below, made⟩ := List.mem_flatMap.1 member
    rw [(Document.mem_bindingsOf.1 made).1]
    exact below
  have before : d.bindings.filter (fun b => b.node ∈ d'.subtree m.grid) = [] := by
    refine List.filter_eq_nil_iff.2 fun b member => ?_
    simp only [decide_eq_true_eq]
    intro there
    have high := forest'.le_of_mem_subtree there
    have low := reachable.node_lt b member
    rw [built.grid_eq] at high
    exact Nat.not_lt_of_le high low
  exact {
    title_lt := title_lt
    grid_lt := grid_lt
    title := built.title
    grid := built.grid
    settled := by
      intro x below name value carries
      have made : (⟨x, name, value, i.scope⟩ : ActiveBinding) ∈ d'.bindingsOf i.scope x :=
        Document.mem_bindingsOf.2 ⟨rfl, rfl, carries⟩
      have member := List.mem_flatMap.2 ⟨x, below, made⟩
      rw [built.walk] at member
      exact ⟨_, by rw [built.bindings]; exact List.mem_append_right _ member, rfl, rfl⟩
    bindings := by
      rw [built.bindings, List.filter_append, before, List.nil_append, built.bindingAttributes]
      exact List.filter_eq_self.2 fun b member => decide_eq_true (onGrid b member) }

/-! ## Runs -/

namespace InstanceSummary

/-- A mount of a component that is not mounted leaves everything, or makes title and grid. -/
theorem mount_cases {s : InstanceSummary} {d : Document} (reachable : d.Reachable)
    (unmounted : s.mounted = none) (anchor : Nat) :
    (∃ e, s.mount d anchor = (.error e, s, d)) ∨
      ∃ m, s.mount d anchor =
          (.ok m, { s with mounted := some m }, d.run (s.inputs.mountCalls d anchor)) ∧
        s.inputs.Built d (d.run (s.inputs.mountCalls d anchor)) m := by
  obtain ⟨inputs, mounted⟩ := s
  cases unmounted
  by_cases inside : anchor < d.size
  · obtain ⟨m, -, mounted, built⟩ := mount_of_lt reachable inputs inside
    exact Or.inr ⟨m, mounted, built⟩
  · exact Or.inl ⟨_, mount_of_le inputs (Nat.le_of_not_lt inside)⟩

end InstanceSummary

namespace SharedDocument

variable {n : Nat} {s : SharedDocument n} {k : Fin n} {m : MountedGrid} {i : InstanceInputs}

/-- A mount that leaves document and component is no step. -/
theorem step_mount_eq {j : Fin n} {anchor : Nat} {result : Except ViewError MountedGrid}
    (stays : (s.summary j).mount s.document anchor = (result, s.summary j, s.document)) :
    s.step (.mount j anchor) = s := by
  show ({ document := _, summary := _ } : SharedDocument n) = s
  rw [stays, Function.update_eq_self]

theorem reachable_step (reachable : s.document.Reachable) (step : SharedStep n) :
    (s.step step).document.Reachable := by
  cases step with
  | mount j anchor =>
      cases mounted : (s.summary j).mounted with
      | some m =>
          rw [step_mount_eq (InstanceSummary.mount_of_mounted mounted _ _)]
          exact reachable
      | none =>
          rcases InstanceSummary.mount_cases reachable mounted anchor with ⟨e, failed⟩ | ⟨m, done, -⟩
          · rw [step_mount_eq failed]
            exact reachable
          · show ((s.summary j).mount s.document anchor).2.2.Reachable
            rw [done]
            exact reachable.run _
  | setInstances j instances => exact reachable
  | setStats j stats => exact reachable
  | call c => exact reachable.run [c]

theorem reachable_run (reachable : s.document.Reachable) (steps : List (SharedStep n)) :
    (s.run steps).document.Reachable := by
  induction steps generalizing s with
  | nil => exact reachable
  | cons step rest ih => exact ih (reachable_step reachable step)

/-- The component has been mounted, and what it has made shows the inputs. -/
structure Keeps (s : SharedDocument n) (k : Fin n) (m : MountedGrid) (i : InstanceInputs) :
    Prop where
  reachable : s.document.Reachable
  mounted : (s.summary k).mounted = some m
  shows : m.Shows i s.document

theorem mem_taken (mounted : (s.summary k).mounted = some m) {x : Nat}
    (member : x ∈ s.document.subtree m.title ++ s.document.subtree m.grid) : x ∈ s.taken := by
  refine List.mem_flatMap.2 ⟨k, List.mem_finRange k, ?_⟩
  rw [mounted]
  exact member

theorem mounted_update {j : Fin n} {changed : InstanceSummary}
    (same : changed.mounted = (s.summary j).mounted) :
    (Function.update s.summary j changed k).mounted = (s.summary k).mounted := by
  by_cases here : k = j
  · subst here
    rw [Function.update_self, same]
  · rw [Function.update_of_ne here]

/-- **A step outside the titles and grids that are there leaves what a mounted component shows.** -/
theorem Keeps.step (keeps : s.Keeps k m i) {step : SharedStep n}
    (apart : ∀ t ∈ s.target? step, t ∉ s.taken) : (s.step step).Keeps k m i := by
  have outside : ∀ t, s.target? step = some t →
      t ∉ s.document.subtree m.title ++ s.document.subtree m.grid := fun t target member =>
    apart t target (mem_taken keeps.mounted member)
  cases step with
  | mount j anchor =>
      cases mounted : (s.summary j).mounted with
      | some m' =>
          rw [step_mount_eq (InstanceSummary.mount_of_mounted mounted _ _)]
          exact keeps
      | none =>
          rcases InstanceSummary.mount_cases keeps.reachable mounted anchor with
            ⟨e, failed⟩ | ⟨m', done, -⟩
          · rw [step_mount_eq failed]
            exact keeps
          · have other : k ≠ j := by
              rintro rfl
              rw [keeps.mounted] at mounted
              cases mounted
            have target : s.target? (.mount j anchor) = some anchor := by
              simp [target?, mounted]
            have shows := keeps.shows.run keeps.reachable.forest (outside anchor target)
              ((s.summary j).inputs.mountCalls s.document anchor)
              (by simp [InstanceInputs.mountCalls, Call.target?])
            exact {
              reachable := reachable_step keeps.reachable _
              mounted := by
                show (Function.update s.summary j _ k).mounted = some m
                rw [Function.update_of_ne other, keeps.mounted]
              shows := by
                show m.Shows i ((s.summary j).mount s.document anchor).2.2
                rw [done]
                exact shows }
  | setInstances j instances =>
      have kept : ((s.summary j).setInstances instances).mounted = (s.summary j).mounted := rfl
      exact ⟨keeps.reachable, (mounted_update kept).trans keeps.mounted, keeps.shows⟩
  | setStats j stats =>
      have kept : ((s.summary j).setStats stats).mounted = (s.summary j).mounted := rfl
      exact ⟨keeps.reachable, (mounted_update kept).trans keeps.mounted, keeps.shows⟩
  | call c =>
      exact ⟨reachable_step keeps.reachable _, keeps.mounted,
        (keeps.shows.after keeps.reachable.forest outside).1⟩

theorem Keeps.run (keeps : s.Keeps k m i) {steps : List (SharedStep n)} (apart : s.Apart steps) :
    (s.run steps).Keeps k m i := by
  induction steps generalizing s with
  | nil => exact keeps
  | cons step rest ih => exact ih (keeps.step apart.1) apart.2

/-- A mount that succeeds makes title and grid, which show what is bound. -/
theorem keeps_of_mount {anchor : Nat} (reachable : s.document.Reachable)
    (unmounted : (s.summary k).mounted = none)
    (succeeds : ((s.summary k).mount s.document anchor).1 = .ok m) :
    (s.step (.mount k anchor)).Keeps k m (s.summary k).inputs := by
  rcases InstanceSummary.mount_cases reachable unmounted anchor with ⟨e, failed⟩ | ⟨m', done, built⟩
  · rw [failed] at succeeds
    cases succeeds
  · obtain rfl : m' = m := by
      rw [done] at succeeds
      exact Except.ok.inj succeeds
    have made : (s.step (.mount k anchor)).document =
        s.document.run ((s.summary k).inputs.mountCalls s.document anchor) := by
      show ((s.summary k).mount s.document anchor).2.2 = _
      rw [done]
    exact {
      reachable := reachable_step reachable _
      mounted := by
        show (Function.update s.summary k _ k).mounted = some m'
        rw [Function.update_self, done]
      shows := by
        rw [made]
        exact built.shows reachable (reachable.run _).forest }

/-- **The grid is a snapshot.**  Components share a document, and are mounted and bound to other
values in any order, while the document is called.  As long as nothing is put into a title or grid
that is there, then at every later point of the run a component that has been mounted has its first
mount, which every further mount gives again, changing nothing; title and grid are those of the
inputs at that mount, the bindings on the grid are those the mount made, under the scope of these
inputs; and what is bound to each component is what was bound last. -/
theorem run_snapshot (tag : String) (attributes : List String) (calls : List Call)
    (inputs : Fin n → InstanceInputs) (steps : List (SharedStep n))
    (apart : (opened ((Document.opened tag attributes).run calls) inputs).Apart steps) :
    let start := opened ((Document.opened tag attributes).run calls) inputs
    let now := start.run steps
    (∀ k, (now.summary k).inputs = latest (inputs k) k steps) ∧
    ∀ k before anchor later m, steps = before ++ .mount k anchor :: later →
      let earlier := start.run before
      let bound := (earlier.summary k).inputs
      (earlier.summary k).mounted = none →
      ((earlier.summary k).mount earlier.document anchor).1 = .ok m →
        (now.summary k).mounted = some m ∧
        (∀ again, (now.summary k).mount now.document again =
          (.ok m, now.summary k, now.document)) ∧
        now.document.toMarkup m.grid = some (buildGrid bound.instances bound.size).toMarkup ∧
        now.document.toMarkup m.title = some (buildTitle bound.stats).toMarkup ∧
        now.document.bindings.filter (fun b => b.node ∈ now.document.subtree m.grid) =
          (buildGrid bound.instances bound.size).toMarkup.bindingsFrom
            now.document.bindingAttributes bound.scope m.grid ∧
        (∀ b ∈ now.document.bindings, b.node ∈ now.document.subtree m.grid →
          b.scope = bound.scope) := by
  intro start now
  refine ⟨fun k => inputs_run start k steps, ?_⟩
  intro k before anchor later m split earlier bound unmounted succeeds
  have reachable : earlier.document.Reachable :=
    reachable_run (Document.reachable_run_opened tag attributes calls) before
  have first : (earlier.step (.mount k anchor)).Keeps k m bound :=
    keeps_of_mount reachable unmounted succeeds
  have keeps : now.Keeps k m bound := by
    subst split
    show (start.run (before ++ .mount k anchor :: later)).Keeps k m bound
    rw [run_append]
    exact first.run (apart_append.1 apart).2.2
  refine ⟨keeps.mounted, InstanceSummary.mount_of_mounted keeps.mounted _, keeps.shows.grid,
    keeps.shows.title, keeps.shows.bindings, fun b live onGrid => ?_⟩
  have member : b ∈ now.document.bindings.filter fun b => b.node ∈ now.document.subtree m.grid :=
    List.mem_filter.2 ⟨live, decide_eq_true onGrid⟩
  rw [keeps.shows.bindings] at member
  exact Markup.scope_of_mem_bindingsFrom _ _ member

/-- A component is mounted in vain, bound, mounted, bound again and mounted again; in between
another one is mounted, and the document is compiled and added to. -/
def rebound : List (SharedStep 2) :=
  [.mount 0 9, .setInstances 0 [{ statusClass := "failed" }], .mount 0 1,
    .call (.compile Document.root {}), .call (.append 2 (.text "log")), .setInstances 0 [],
    .mount 1 2, .mount 0 2]

def twoAnchors : SharedDocument 2 :=
  opened ((Document.opened "body" []).run [.createAnchor "left", .createAnchor "right"]) fun _ => {}

theorem snapshot_of_rebound :
    twoAnchors.Apart rebound ∧
      ((twoAnchors.run rebound).summary 0).mounted = some ⟨1, 7, 3, 1⟩ ∧
      (twoAnchors.run rebound).document.toMarkup 3 =
        some (buildGrid [{ statusClass := "failed" }] "").toMarkup ∧
      ((twoAnchors.run rebound).summary 0).inputs.instances = [] := by
  have apart : twoAnchors.Apart rebound := by decide +kernel
  obtain ⟨inputs, mounts⟩ :=
    run_snapshot "body" [] [.createAnchor "left", .createAnchor "right"] (fun _ => {}) rebound apart
  obtain ⟨mounted, -, grid, -⟩ :=
    mounts 0 (rebound.take 2) 1 (rebound.drop 3) ⟨1, 7, 3, 1⟩ rfl rfl rfl
  refine ⟨apart, mounted, grid, ?_⟩
  have last := inputs 0
  rw [twoAnchors, last]
  rfl

end SharedDocument

end ConsoleView
