/-
# ConsoleView.Proofs.InstanceSummary.Mount -- mounting title and grid

A mount is three calls of the document, each of which could fail.  If the anchor
is there none of them does: the grid that has just been appended is a child of
the anchor, so the title can go before it, and it is a node, so it can be
compiled.  If the anchor is not there the first call fails and nothing has been
done.  `Built` says what a mount makes, `mount_of_lt` that it makes it, and
`mount_run_opened` collects both for every history of the document.
-/
import ConsoleView.Component.InstanceSummary
import ConsoleView.Preview.Render
import ConsoleView.Proofs.Document.Failure
import ConsoleView.Proofs.Document.Fresh
import ConsoleView.Proofs.Document.TreeEdit
import ConsoleView.Proofs.InstanceSummary.Labels

namespace ConsoleView

set_option autoImplicit false

namespace InstanceInputs

def grid (i : InstanceInputs) : Markup := (buildGrid i.instances i.size).toMarkup

def title (i : InstanceInputs) : Markup := (buildTitle i.stats).toMarkup

/-- The calls that mounting the inputs at an anchor makes. -/
def mountCalls (i : InstanceInputs) (d : Document) (anchor : Nat) : List Call :=
  [.append anchor i.grid, .insertBefore anchor i.title d.size, .compile d.size i.scope]

/-- The inputs have been mounted into `d`, which has become `d'`. -/
structure Built (i : InstanceInputs) (d d' : Document) (m : MountedGrid) : Prop where
  anchor_lt : m.anchor < d.size
  grid_eq : m.grid = d.size
  size : d'.size = d.size + i.grid.nodeCount + i.title.nodeCount
  children : d'.children m.anchor = d.children m.anchor ++ [m.title, m.grid]
  title : d'.toMarkup m.title = some i.title
  grid : d'.toMarkup m.grid = some i.grid
  cells : d'.children m.grid =
    Markup.rootsFrom (m.grid + 1) (buildGrid i.instances i.size).children
  content : ∀ x < d.size, d'.content? x = d.content? x
  parent : ∀ x < d.size, d'.parent? x = d.parent? x
  others : ∀ x < d.size, x ≠ m.anchor → d'.children x = d.children x
  bindingAttributes : d'.bindingAttributes = d.bindingAttributes
  walk : (d'.subtree m.grid).flatMap (d'.bindingsOf i.scope) =
    i.grid.bindingsFrom d.bindingAttributes i.scope m.grid
  bindings : d'.bindings = d.bindings ++ i.grid.bindingsFrom d.bindingAttributes i.scope m.grid
  activated : m.activated = i.grid.declarativeCount d.bindingAttributes

end InstanceInputs

namespace InstanceSummary

variable {d : Document} {anchor : Nat}

/-! ## A tree before the one that came last -/

section Before

variable {d₁ d₂ : Document} {p : Nat} {g t : Markup}

/-- In a list without repetitions what was put last is nowhere else. -/
theorem place_of_last {xs : List Nat} {x i : Nat} (fresh : x ∉ xs)
    (place : (xs ++ [x])[i]? = some x) : i = xs.length := by
  rcases Nat.lt_trichotomy i xs.length with early | same | late
  · rw [List.getElem?_append_left early] at place
    exact absurd (List.mem_of_getElem? place) fresh
  · exact same
  · rw [List.getElem?_eq_none (by simp; omega)] at place
    cases place

theorem children_appended (appended : d.Spliced p g (d.children p).length 0 d₁) :
    d₁.children p = d.children p ++ [d.size] := by
  rw [appended.spliced, splice_end]

/-- A tree can be put immediately before the one that was appended. -/
theorem insertBefore_appended (forest : d.Forest)
    (appended : d.Spliced p g (d.children p).length 0 d₁) (t : Markup) :
    ∃ d₂, d₁.insertBefore p t d.size = .ok (d₂, d₁.size) ∧
      d₁.Spliced p t (d.children p).length 0 d₂ := by
  have children := children_appended appended
  have child : d.size ∈ d₁.children p := by simp [children]
  obtain ⟨d₂, inserted⟩ := Document.insertBefore_of_child child t
  obtain ⟨-, place, item, spliced⟩ := Document.spliced_insertBefore inserted
  have fresh : d.size ∉ d.children p := fun member => Nat.lt_irrefl _ (forest.child_lt member)
  rw [children] at item
  obtain rfl := place_of_last fresh item
  exact ⟨d₂, inserted, spliced⟩

/-- What is put under the target later is not inside the tree that was appended. -/
theorem appended_apart (forest : d.Forest)
    (appended : d.Spliced p g (d.children p).length 0 d₁) :
    d.size < d₁.size ∧ p ∉ d₁.subtree d.size := by
  have forest₁ := forest.spliced appended
  have child : d.size ∈ d₁.children p := by simp [children_appended appended]
  exact ⟨forest₁.child_lt child, forest₁.not_mem_subtree_child child⟩

variable (appended : d.Spliced p g (d.children p).length 0 d₁)
  (inserted : d₁.Spliced p t (d.children p).length 0 d₂)
include appended inserted

theorem children_inserted : d₂.children p = d.children p ++ [d₁.size, d.size] := by
  rw [inserted.spliced, children_appended appended, splice_append, List.drop_zero]

/-- The walk of the tree that was appended finds what is declarative in its markup. -/
theorem walk_appended (forest : d.Forest) (scope : Scope) :
    (d₂.subtree d.size).flatMap (d₂.bindingsOf scope) =
      g.bindingsFrom d.bindingAttributes scope d.size := by
  obtain ⟨inside, apart⟩ := appended_apart forest appended
  rw [(forest.spliced appended).walk_of_not_mem inserted inside apart, Document.walk_new appended]

/-- Nothing of the tree that was appended is live. -/
theorem dormant_appended (reachable : d.Reachable) (scope : Scope) :
    d₂.dormant d.size scope = g.bindingsFrom d.bindingAttributes scope d.size := by
  have forest := reachable.forest
  have forest₂ := (forest.spliced appended).spliced inserted
  have behind : ∀ b ∈ d₂.bindings, b.node < d.size := by
    rw [inserted.bindings, appended.bindings]
    exact reachable.node_lt
  rw [forest₂.dormant_fresh behind, walk_appended appended inserted forest]

end Before

/-! ## What a mount makes -/

theorem mount_of_le (i : InstanceInputs) (outside : d.size ≤ anchor) :
    ({ inputs := i } : InstanceSummary).mount d anchor =
      (.error (.nodeNotFound anchor), { inputs := i }, d) := by
  have failed : d.append anchor i.grid = .error (.nodeNotFound anchor) :=
    Document.append_eq_error_iff.2 ⟨outside, rfl⟩
  rw [InstanceInputs.grid] at failed
  simp only [mount, failed]

/-- **Mounting at a node that is there succeeds, and makes title and grid.** -/
theorem mount_of_lt (reachable : d.Reachable) (i : InstanceInputs) (inside : anchor < d.size) :
    ∃ m : MountedGrid, m.anchor = anchor ∧
      ({ inputs := i } : InstanceSummary).mount d anchor =
        (.ok m, { inputs := i, mounted := some m }, d.run (i.mountCalls d anchor)) ∧
      i.Built d (d.run (i.mountCalls d anchor)) m := by
  have forest := reachable.forest
  obtain ⟨d₁, withGrid⟩ : ∃ d₁, d.append anchor i.grid = .ok (d₁, d.size) := ⟨_, if_pos inside⟩
  have appended := (Document.spliced_append withGrid).2
  have forest₁ := forest.spliced appended
  obtain ⟨d₂, withTitle, inserted⟩ := insertBefore_appended forest appended i.title
  have forest₂ := forest₁.spliced inserted
  obtain ⟨inside₁, apart⟩ := appended_apart forest appended
  have inside₂ : d.size < d₂.size := Nat.lt_of_lt_of_le inside₁ (by rw [inserted.size]; omega)
  have dormant := dormant_appended appended inserted reachable i.scope
  have compiled : d₂.compile d.size i.scope =
      .ok (d₂.compiled d.size i.scope, i.grid.declarativeCount d.bindingAttributes) := by
    rw [forest₂.compile_eq inside₂, dormant, Markup.length_bindingsFrom]
  have run : d.run (i.mountCalls d anchor) = d₂.compiled d.size i.scope := by
    have one : (Call.append anchor i.grid).after d = d₁ := Call.after_of_ok withGrid
    have two : (Call.insertBefore anchor i.title d.size).after d₁ = d₂ :=
      Call.after_of_ok withTitle
    have three : (Call.compile d.size i.scope).after d₂ = d₂.compiled d.size i.scope :=
      Call.after_of_ok compiled
    simp only [InstanceInputs.mountCalls, Document.run, List.foldl_cons, List.foldl_nil, one, two,
      three]
  have shown : ∀ x, (d₂.compiled d.size i.scope).toMarkup x = d₂.toMarkup x :=
    Document.toMarkup_congr rfl
  refine ⟨⟨anchor, d₁.size, d.size, i.grid.declarativeCount d.bindingAttributes⟩, rfl, ?_, ?_⟩
  · rw [run]
    rw [InstanceInputs.grid] at withGrid
    rw [InstanceInputs.title] at withTitle
    simp only [mount, withGrid, withTitle, compiled]
  · rw [run]
    exact {
      anchor_lt := inside
      grid_eq := rfl
      size := by
        show d₂.size = _
        rw [inserted.size, appended.size]
      children := by
        show d₂.children anchor = _
        exact children_inserted appended inserted
      title := by
        have inside' : d₁.size < d₂.size := by
          have := Document.nodeCount_pos i.title
          rw [inserted.size]
          omega
        rw [shown, forest₂.toMarkup_eq_some inside', Document.Forest.shown_new inserted]
      grid := by
        rw [shown, forest₂.toMarkup_eq_some inside₂,
          forest₁.shown_of_not_mem inserted inside₁ apart, Document.Forest.shown_new appended]
      cells := by
        have ne : d.size ≠ anchor := Nat.ne_of_gt inside
        show d₂.children d.size = _
        rw [inserted.children d.size inside₁ ne]
        exact Document.children_of_node appended.held.1
      content := fun x old => by
        show d₂.content? x = _
        rw [inserted.content x (by omega), appended.content x old]
      parent := fun x old => by
        show d₂.parent? x = _
        rw [inserted.parent x (by omega), appended.parent x old]
        simp [cutOut_zero]
      others := fun x old ne => by
        show d₂.children x = _
        rw [inserted.children x (by omega) ne, appended.children x old ne]
      bindingAttributes := inserted.bindingAttributes.trans appended.bindingAttributes
      walk := by
        have sameTree : (d₂.compiled d.size i.scope).subtree d.size = d₂.subtree d.size :=
          Document.subtree_congr (show (d₂.compiled d.size i.scope).nodes = d₂.nodes from rfl) _
        show ((d₂.compiled d.size i.scope).subtree d.size).flatMap (d₂.bindingsOf i.scope) = _
        rw [sameTree, walk_appended appended inserted forest]
      bindings := by
        show d₂.bindings ++ d₂.dormant d.size i.scope = _
        rw [inserted.bindings, appended.bindings, dormant]
      activated := by dsimp only }

/-! ## The preview -/

/-- A mount into an empty element shows title and grid in it, and nothing else. -/
theorem toMarkup_anchor {d' : Document} {i : InstanceInputs} {m : MountedGrid} {tag : String}
    (reachable : d'.Reachable) (built : i.Built d d' m)
    (element : d.content? m.anchor = some (.element tag .empty))
    (empty : d.children m.anchor = []) :
    d'.toMarkup m.anchor =
      some (((Element.named tag).withChild i.title).withChild i.grid).toMarkup := by
  have content : d'.content? m.anchor = some (.element tag .empty) := by
    rw [built.content _ built.anchor_lt, element]
  have below : (d'.children m.anchor).filterMap d'.toMarkup = [i.title, i.grid] := by
    rw [built.children, empty, List.nil_append, List.filterMap_cons_some built.title,
      List.filterMap_cons_some built.grid, List.filterMap_nil]
  rw [reachable.forest.toMarkup_eq, content, below]
  rfl

theorem draftInstances_eq (fixture : Scope) :
    draftInstances fixture = (InstanceInputs.ofScope fixture).map fun i =>
      .ready (.markup Component.instanceSummary.name
        (((Element.named "instance-summary").withChild i.title).withChild i.grid).toMarkup.html) := by
  let host := (Document.blank.createAnchor "instance-summary").1
  have opened : Document.blank.createAnchor "instance-summary" = (host, 1) := rfl
  have reachable : host.Reachable :=
    Document.reachable_run_opened "body" [] [.createAnchor "instance-summary"]
  have inside : 1 < host.size := by decide
  have element : host.content? 1 = some (.element "instance-summary" .empty) := by rfl
  have empty : host.children 1 = [] := by rfl
  cases outcome : InstanceInputs.ofScope fixture with
  | error e =>
      rw [draftInstances, outcome]
      rfl
  | ok i =>
      obtain ⟨m, anchor, mounted, built⟩ := mount_of_lt reachable i inside
      rw [← anchor] at element empty
      have shown := toMarkup_anchor (reachable.run _) built element empty
      rw [anchor] at shown
      simp only [draftInstances, outcome, bind, Except.bind, opened, mounted, Document.html, shown]
      rfl

/-! ## Every mount -/

/-- **A mount is all or nothing, and makes title and grid.**  At every point of a document's
history, mounting at a node that is not there fails and leaves document and component as they were.
Mounting at any other node succeeds: title and grid stand last among the children of the anchor, they
read back as they were built, and of the nodes that were there only the anchor's children have
changed.  What becomes live is what is declarative in the grid; if only tooltips are, that is one
label for each cell, in order and under the scope of the inputs.  The preview shows the same title
and grid. -/
theorem mount_run_opened :
    (∀ (tag : String) (attributes : List String) (calls : List Call) (i : InstanceInputs)
        (anchor : Nat),
      let d := (Document.opened tag attributes).run calls
      let s : InstanceSummary := { inputs := i }
      (d.size ≤ anchor → s.mount d anchor = (.error (.nodeNotFound anchor), s, d)) ∧
      (anchor < d.size → ∃ m d',
        s.mount d anchor = (.ok m, { s with mounted := some m }, d') ∧
        m.anchor = anchor ∧
        d'.children anchor = d.children anchor ++ [m.title, m.grid] ∧
        d'.toMarkup m.title = some (buildTitle i.stats).toMarkup ∧
        d'.toMarkup m.grid = some (buildGrid i.instances i.size).toMarkup ∧
        (∀ x < d.size, d'.content? x = d.content? x ∧ d'.parent? x = d.parent? x ∧
          (x ≠ anchor → d'.children x = d.children x)) ∧
        m.activated = (buildGrid i.instances i.size).toMarkup.declarativeCount
          d.bindingAttributes ∧
        ((∀ name ∈ attributes, name = "tooltip") →
          m.activated = i.instances.length ∧
          d'.children m.grid = i.instances.mapIdx (fun n _ => m.grid + 1 + 3 * n) ∧
          d'.bindings = d.bindings ++ i.instances.mapIdx fun n record =>
            { node := m.grid + 1 + 3 * n, name := "tooltip", expression := cellLabel n record,
              scope := i.scope }))) ∧
    (∀ (name : String) (fixture : Scope) (settings : Settings) (resolve : Resolver),
      resolveName name = some Component.instanceSummary.descriptor →
        render name fixture settings resolve = (InstanceInputs.ofScope fixture).map fun i =>
          .markup Component.instanceSummary.name
            (((Element.named "instance-summary").withChild (buildTitle i.stats)).withChild
              (buildGrid i.instances i.size)).toMarkup.html) := by
  constructor
  · intro tag attributes calls i anchor d s
    refine ⟨mount_of_le i, fun inside => ?_⟩
    have reachable := Document.reachable_run_opened tag attributes calls
    obtain ⟨m, rfl, mounted, built⟩ := mount_of_lt reachable i inside
    refine ⟨m, _, mounted, rfl, built.children, built.title, built.grid, fun x old =>
      ⟨built.content x old, built.parent x old, built.others x old⟩, built.activated, ?_⟩
    intro onlyTooltips
    have tooltips : ∀ name, name ∈ d.bindingAttributes ↔ name = "tooltip" := by
      intro name
      rw [(Document.Forest.opened tag attributes).bindingAttributes_run calls,
        Document.mem_bindingAttributes_opened]
      exact or_iff_right_of_imp (onlyTooltips name)
    have labels := bindingsFrom_buildGrid tooltips i.scope m.grid i.instances i.size
    have cells := rootsFrom_cells (m.grid + 1) 0 i.instances
    simp only [Nat.zero_add] at cells
    refine ⟨?_, ?_, ?_⟩
    · rw [built.activated, ← Markup.length_bindingsFrom _ i.scope m.grid, InstanceInputs.grid,
        labels, List.length_mapIdx]
    · rw [built.cells, buildGrid, cells]
    · rw [built.bindings, InstanceInputs.grid, labels]
  · intro name fixture settings resolve found
    have drafted : draft name fixture settings = draftInstances fixture := by
      rw [draft, found]
      rfl
    rw [render, drafted, draftInstances_eq]
    cases InstanceInputs.ofScope fixture with
    | error e => rfl
    | ok i => rfl

/-- Two instances are mounted into an anchor that holds a note already. -/
theorem mount_beside_note :
    let d := (Document.opened "body" ["tooltip"]).run
      [.createAnchor "instance-summary", .append 1 (.text "note")]
    let i : InstanceInputs :=
      { instances := [{ statusClass := "running" }, { statusClass := "failed" }]
        size := "big"
        stats := { updated := 1, total := 2, progress := 50.0 } }
    let s : InstanceSummary := { inputs := i }
    s.mount d 7 = (.error (.nodeNotFound 7), s, d) ∧
      (∃ m d', s.mount d 1 = (.ok m, { s with mounted := some m }, d') ∧
        d'.children 1 = [2, m.title, m.grid] ∧
        (d'.toMarkup m.title).map Markup.textContent = some "Instance Status 1 / 2 (50%)" ∧
        d'.toMarkup m.grid = some (buildGrid i.instances "big").toMarkup ∧
        m.activated = 2 ∧
        d'.bindings.map (fun b => b.expression) = ["INSTANCE 0: RUNNING", "INSTANCE 1: FAILED"]) ∧
      ∀ (fixture : Scope) (settings : Settings) (resolve : Resolver),
        render "instance-summary" fixture settings resolve =
          (InstanceInputs.ofScope fixture).map fun i =>
            .markup Component.instanceSummary.name
              (((Element.named "instance-summary").withChild (buildTitle i.stats)).withChild
                (buildGrid i.instances i.size)).toMarkup.html := by
  intro d i s
  have outside : d.size ≤ 7 := by decide +kernel
  have inside : 1 < d.size := by decide +kernel
  have below : d.children 1 = [2] := by decide +kernel
  have progress : (buildTitle i.stats).toMarkup.textContent = "Instance Status 1 / 2 (50%)" := by
    decide +kernel
  have running : cellLabel 0 { statusClass := "running" } = "INSTANCE 0: RUNNING" := by
    decide +kernel
  have failed : cellLabel 1 { statusClass := "failed" } = "INSTANCE 1: FAILED" := by
    decide +kernel
  have meant : resolveName "instance-summary" = some Component.instanceSummary.descriptor := by
    decide +kernel
  obtain ⟨mounts, previews⟩ := mount_run_opened
  have mountsAt := mounts "body" ["tooltip"]
    [.createAnchor "instance-summary", .append 1 (.text "note")] i
  obtain ⟨m, d', mounted, -, children, title, grid, -, -, labels⟩ := (mountsAt 1).2 inside
  obtain ⟨activated, -, bindings⟩ := labels (by decide)
  have expressions : d'.bindings.map (fun b => b.expression) =
      ["INSTANCE 0: RUNNING", "INSTANCE 1: FAILED"] := by
    rw [bindings, ← running, ← failed]
    rfl
  rw [below] at children
  refine ⟨(mountsAt 7).1 outside, ⟨m, d', mounted, children, ?_, grid, activated, expressions⟩,
    fun fixture settings resolve => previews _ fixture settings resolve meant⟩
  rw [title, Option.map_some, progress]

end InstanceSummary

end ConsoleView
