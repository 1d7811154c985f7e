/-
# ConsoleView.Proofs.InstanceSummary.Siblings -- components mounted side by side

Components are mounted into one document one after another, each at a node of
its own that was there before.  These nodes may lie inside one another, and may
have children.  What the mounts leave is told by the document as it was and by
which component has which anchor (`Mounts`): below each node that was there stand
its children as before, and then title and grid of the component mounted at it
(`Mounts.toMarkup_eq`).  So the order does not matter (`mountAll_perm`).
-/
import ConsoleView.Proofs.InstanceSummary.Snapshot

namespace ConsoleView

set_option autoImplicit false

/-- The live bindings on the grid of a mount. -/
def Document.bindingsOn (d : Document) (m : MountedGrid) : List ActiveBinding :=
  d.bindings.filter fun b => b.node ∈ d.subtree m.grid

/-- The children that a mount adds to a node. -/
def MountedGrid.nodesAt (m : MountedGrid) (x : NodeId) : List NodeId :=
  if m.anchor = x then [m.title, m.grid] else []

namespace InstanceSummary

/-- Mount components one after another, whether they fail or not. -/
def mountAll (d : Document) :
    List (InstanceSummary × NodeId) → List (Except ViewError MountedGrid) × Document
  | [] => ([], d)
  | (s, anchor) :: rest =>
      let outcome := s.mount d anchor
      let later := mountAll outcome.2.2 rest
      (outcome.1 :: later.1, later.2)

def added (placed : List (InstanceSummary × NodeId)) (x : NodeId) : List Markup :=
  placed.flatMap fun e => if e.2 = x then [e.1.inputs.title, e.1.inputs.grid] else []

/-- How many nodes these trees have, at all anchors. -/
def addedCount (placed : List (InstanceSummary × NodeId)) : Nat :=
  (placed.map fun e => e.1.inputs.grid.nodeCount + e.1.inputs.title.nodeCount).sum

variable {d d' d₁ d₂ : Document} {m : MountedGrid} {i : InstanceInputs} {s : InstanceSummary}
  {anchor x : NodeId} {placed placed' : List (InstanceSummary × NodeId)}
  {grids grids' : List MountedGrid}

/-! ## One mount -/

/-- The nodes that a mount makes are new. -/
theorem title_new (reachable : d.Reachable) (forest' : d'.Forest) (built : i.Built d d' m) :
    d.size ≤ m.title := by
  apply Nat.le_of_not_lt
  intro old
  have child : m.title ∈ d'.children m.anchor := by
    rw [built.children]
    simp
  have parent := forest'.parent _ _ child
  rw [built.parent _ old] at parent
  have twice := forest'.distinct m.anchor
  rw [built.children] at twice
  exact (List.disjoint_of_nodup_append twice) (reachable.forest.child _ _ parent) (by simp)

/-- A mount before title and grid leaves what they show. -/
theorem shows_mount (shows : m.Shows i d) (reachable : d.Reachable) (new : s.mounted = none)
    (early : anchor < m.title ∧ anchor < m.grid) : m.Shows i (s.mount d anchor).2.2 := by
  have forest := reachable.forest
  have outside : anchor ∉ d.subtree m.title ++ d.subtree m.grid := by
    intro member
    rcases List.mem_append.1 member with inTitle | inGrid
    · exact Nat.not_lt_of_le (forest.le_of_mem_subtree inTitle) early.1
    · exact Nat.not_lt_of_le (forest.le_of_mem_subtree inGrid) early.2
  rcases mount_cases reachable new anchor with ⟨e, failed⟩ | ⟨m', done, -⟩
  · rw [failed]
    exact shows
  · rw [done]
    apply shows.run forest outside
    simp [InstanceInputs.mountCalls, Call.target?]

theorem reachable_mount (reachable : d.Reachable) (new : s.mounted = none) (anchor : NodeId) :
    (s.mount d anchor).2.2.Reachable := by
  rcases mount_cases reachable new anchor with ⟨e, failed⟩ | ⟨m, done, -⟩
  · rw [failed]
    exact reachable
  · rw [done]
    exact reachable.run _

/-! ## Many mounts -/

theorem shows_mountAll (shows : m.Shows i d) (reachable : d.Reachable)
    (new : ∀ e ∈ placed, e.1.mounted = none)
    (early : ∀ e ∈ placed, e.2 < m.title ∧ e.2 < m.grid) : m.Shows i (mountAll d placed).2 := by
  induction placed generalizing d with
  | nil => exact shows
  | cons e rest ih =>
      have newHere := new e List.mem_cons_self
      have shows' := shows_mount shows reachable newHere (early e List.mem_cons_self)
      exact ih shows' (reachable_mount reachable newHere e.2)
        (fun e' member => new e' (List.mem_cons_of_mem _ member))
        (fun e' member => early e' (List.mem_cons_of_mem _ member))

/-- A component has been mounted at its anchor and is shown. -/
structure Stands (names : List String) (d' : Document) (e : InstanceSummary × NodeId)
    (m : MountedGrid) : Prop where
  anchor : m.anchor = e.2
  activated : m.activated = e.1.inputs.grid.declarativeCount names
  shows : m.Shows e.1.inputs d'

/-- Components have been mounted into `d`, which has become `d'`. -/
structure Mounts (d : Document) (placed : List (InstanceSummary × NodeId))
    (grids : List MountedGrid) (d' : Document) : Prop where
  reachable : d'.Reachable
  size : d'.size = d.size + addedCount placed
  bindingAttributes : d'.bindingAttributes = d.bindingAttributes
  content : ∀ x < d.size, d'.content? x = d.content? x
  parent : ∀ x < d.size, d'.parent? x = d.parent? x
  children : ∀ x < d.size, d'.children x = d.children x ++ grids.flatMap (·.nodesAt x)
  stands : List.Forall₂ (Stands d.bindingAttributes d') placed grids
  bindings : d'.bindings = d.bindings ++ grids.flatMap d'.bindingsOn

theorem Mounts.nil (reachable : d.Reachable) : Mounts d [] [] d where
  reachable := reachable
  size := rfl
  bindingAttributes := rfl
  content := fun _ _ => rfl
  parent := fun _ _ => rfl
  children := by
    intro x old
    rw [List.flatMap_nil, List.append_nil]
  stands := .nil
  bindings := by rw [List.flatMap_nil, List.append_nil]

/-- One mount and then others. -/
theorem Mounts.cons (mounts : Mounts d₁ placed grids d') (built : i.Built d d₁ m)
    (grown : d.size < d₁.size) (shows : m.Shows i d') :
    Mounts d (({ inputs := i }, m.anchor) :: placed) (m :: grids) d' where
  reachable := mounts.reachable
  size := by
    rw [mounts.size, built.size, addedCount, addedCount, List.map_cons, List.sum_cons]
    simp only [Nat.add_assoc]
  bindingAttributes := mounts.bindingAttributes.trans built.bindingAttributes
  content := by
    intro x old
    rw [mounts.content x (old.trans grown), built.content x old]
  parent := by
    intro x old
    rw [mounts.parent x (old.trans grown), built.parent x old]
  children := by
    intro x old
    have here : d₁.children x = d.children x ++ m.nodesAt x := by
      rw [MountedGrid.nodesAt]
      split
      · rename_i same
        rw [← same, built.children]
      · rename_i other
        rw [List.append_nil]
        exact built.others x old (Ne.symm other)
    rw [mounts.children x (old.trans grown), here, List.flatMap_cons, List.append_assoc]
  stands := by
    have later := mounts.stands
    rw [built.bindingAttributes] at later
    exact .cons ⟨rfl, built.activated, shows⟩ later
  bindings := by
    have attributes := mounts.bindingAttributes.trans built.bindingAttributes
    have own : d'.bindingsOn m = i.grid.bindingsFrom d.bindingAttributes i.scope m.grid := by
      rw [Document.bindingsOn, shows.bindings, attributes]
    rw [mounts.bindings, built.bindings, List.flatMap_cons, own, List.append_assoc]

/-- **Mounting makes title and grid of each component at its anchor**, and changes nothing else. -/
theorem mounts_mountAll (reachable : d.Reachable) (new : ∀ e ∈ placed, e.1.mounted = none)
    (there : ∀ e ∈ placed, e.2 < d.size) :
    ∃ grids, (mountAll d placed).1 = grids.map .ok ∧
      Mounts d placed grids (mountAll d placed).2 := by
  induction placed generalizing d with
  | nil => exact ⟨[], rfl, .nil reachable⟩
  | cons e rest ih =>
      obtain ⟨⟨inputs, mounted⟩, anchor⟩ := e
      obtain rfl : mounted = none := new _ List.mem_cons_self
      obtain ⟨m, rfl, done, built⟩ :=
        mount_of_lt reachable inputs (there _ List.mem_cons_self)
      have reachable₁ := reachable.run (inputs.mountCalls d m.anchor)
      have shows := built.shows reachable reachable₁.forest
      have title_ge := title_new reachable reachable₁.forest built
      have grown : d.size < (d.run (inputs.mountCalls d m.anchor)).size := by
        rw [← built.grid_eq]
        exact shows.grid_lt
      have newLater : ∀ e ∈ rest, e.1.mounted = none := by
        intro e member
        exact new e (List.mem_cons_of_mem _ member)
      have thereLater : ∀ e ∈ rest, e.2 < d.size := by
        intro e member
        exact there e (List.mem_cons_of_mem _ member)
      have early : ∀ e ∈ rest, e.2 < m.title ∧ e.2 < m.grid := by
        intro e member
        have old := thereLater e member
        refine ⟨Nat.lt_of_lt_of_le old title_ge, ?_⟩
        rw [built.grid_eq]
        exact old
      obtain ⟨grids, results, mounts⟩ := ih reachable₁ newLater fun e member =>
        (thereLater e member).trans grown
      have shows' := shows_mountAll shows reachable₁ newLater early
      refine ⟨m :: grids, ?_, ?_⟩
      · rw [mountAll, done, List.map_cons, ← results]
      · rw [mountAll, done]
        exact mounts.cons built grown shows'

/-! ## What is seen of them -/

/-- What components add below a node that none of them has for its anchor. -/
theorem added_of_free (free : ∀ e ∈ placed, e.2 ≠ x) : added placed x = [] := by
  rw [added, List.flatMap_eq_nil_iff]
  intro e member
  rw [if_neg (free e member)]

/-- Among distinct anchors each has what its own component adds. -/
theorem added_of_mem {e : InstanceSummary × NodeId} (distinct : (placed.map Prod.snd).Nodup)
    (member : e ∈ placed) : added placed e.2 = [e.1.inputs.title, e.1.inputs.grid] := by
  induction placed with
  | nil => cases member
  | cons first rest ih =>
      obtain ⟨apart, distinct'⟩ := List.nodup_cons.1 distinct
      rw [added, List.flatMap_cons, ← added]
      rcases List.mem_cons.1 member with rfl | later
      · have free : ∀ e' ∈ rest, e'.2 ≠ e.2 := fun e' there same =>
          apart (List.mem_map.2 ⟨e', there, same⟩)
        rw [if_pos rfl, added_of_free free, List.append_nil]
      · have other : first.2 ≠ e.2 := fun same => apart (List.mem_map.2 ⟨e, later, same.symm⟩)
        rw [if_neg other, List.nil_append, ih distinct' later]

/-- What components add does not depend on their order. -/
theorem added_perm (perm : placed.Perm placed') (distinct : (placed.map Prod.snd).Nodup)
    (x : NodeId) : added placed x = added placed' x := by
  have distinct' : (placed'.map Prod.snd).Nodup := (perm.map Prod.snd).nodup_iff.1 distinct
  by_cases taken : ∃ e ∈ placed, e.2 = x
  · obtain ⟨e, member, rfl⟩ := taken
    rw [added_of_mem distinct member, added_of_mem distinct' (perm.mem_iff.1 member)]
  · have free : ∀ e ∈ placed, e.2 ≠ x := fun e member same => taken ⟨e, member, same⟩
    rw [added_of_free free, added_of_free fun e member => free e (perm.mem_iff.2 member)]

section Stands

variable {names : List String} (stands : List.Forall₂ (Stands names d') placed grids)
include stands

theorem anchors_eq : grids.map MountedGrid.anchor = placed.map Prod.snd := by
  have same : List.Forall₂ (· = ·) (placed.map Prod.snd) (grids.map MountedGrid.anchor) := by
    rw [List.forall₂_map_left_iff, List.forall₂_map_right_iff]
    exact stands.imp fun e m here => here.anchor.symm
  rw [List.forall₂_eq_eq_eq] at same
  exact same.symm

/-- Each mount is that of one of the components. -/
theorem exists_of_mem (member : m ∈ grids) : ∃ e ∈ placed, Stands names d' e m := by
  induction stands with
  | nil => cases member
  | cons here _ ih =>
      rcases List.mem_cons.1 member with rfl | later
      · exact ⟨_, List.mem_cons_self, here⟩
      · obtain ⟨e, there, stands⟩ := ih later
        exact ⟨e, List.mem_cons_of_mem _ there, stands⟩

/-- The children that the mounts have added to a node have the trees of its components. -/
theorem filterMap_nodesAt (x : NodeId) :
    (grids.flatMap (·.nodesAt x)).filterMap d'.toMarkup = added placed x := by
  induction stands with
  | nil => rfl
  | @cons e m placed grids here _ ih =>
      rw [List.flatMap_cons, List.filterMap_append, ih, added, added, List.flatMap_cons,
        MountedGrid.nodesAt, here.anchor]
      congr 1
      split
      · rw [List.filterMap_cons_some here.shows.title, List.filterMap_cons_some here.shows.grid,
          List.filterMap_nil]
      · rfl

end Stands

namespace Mounts

/-- **Below a node stand its children, and what was mounted at it.** -/
theorem toMarkup_eq (mounts : Mounts d placed grids d') (old : x < d.size) :
    d'.toMarkup x = (d.content? x).map fun content =>
      content.tree ((d.children x).filterMap d'.toMarkup ++ added placed x) := by
  rw [mounts.reachable.forest.toMarkup_eq, mounts.content x old, mounts.children x old,
    List.filterMap_append, filterMap_nodesAt mounts.stands]

/-- The same components at the same anchors are seen alike from everywhere. -/
theorem toMarkup_perm (forest : d.Forest) (first : Mounts d placed grids d₁)
    (second : Mounts d placed' grids' d₂) (perm : placed.Perm placed')
    (distinct : (placed.map Prod.snd).Nodup) (old : x < d.size) :
    d₁.toMarkup x = d₂.toMarkup x := by
  induction x using forest.descent.induction with
  | _ x ih =>
      have below : (d.children x).filterMap d₁.toMarkup = (d.children x).filterMap d₂.toMarkup :=
        List.filterMap_congr fun c child => ih c child (forest.child_lt child)
      rw [first.toMarkup_eq old, second.toMarkup_eq old, below, added_perm perm distinct]

/-- The mounts of one component are alike, but for their nodes. -/
theorem alike_perm (first : Mounts d placed grids d₁)
    (second : Mounts d placed' grids' d₂) (perm : placed.Perm placed')
    (distinct : (placed.map Prod.snd).Nodup) {m m' : MountedGrid} (member : m ∈ grids)
    (member' : m' ∈ grids') (same : m.anchor = m'.anchor) :
    ∃ i : InstanceInputs, m.Shows i d₁ ∧ m'.Shows i d₂ ∧ m.activated = m'.activated := by
  obtain ⟨e, there, stands⟩ := exists_of_mem first.stands member
  obtain ⟨e', there', stands'⟩ := exists_of_mem second.stands member'
  have anchors : e.2 = e'.2 := by rw [← stands.anchor, same, stands'.anchor]
  obtain rfl : e = e' :=
    List.inj_on_of_nodup_map distinct there (perm.mem_iff.2 there') anchors
  exact ⟨e.1.inputs, stands.shows, stands'.shows, stands.activated.trans stands'.activated.symm⟩

end Mounts

/-- **Components mounted side by side do not care in which order.**  Mounted at different nodes that
are there, one after another in any two orders, each of them is mounted; as many nodes are made;
every node that was there has the same parent and the same tree below it; and each component has the
same title and grid, as many bindings made live, and the same bindings on its grid, counted from the
grid on.  Behind the bindings that were live before stand those on the grids, in the order of the
mounts. -/
theorem mountAll_perm (reachable : d.Reachable) (perm : placed.Perm placed')
    (new : ∀ e ∈ placed, e.1.mounted = none) (there : ∀ e ∈ placed, e.2 < d.size)
    (distinct : (placed.map Prod.snd).Nodup) :
    let first := mountAll d placed
    let second := mountAll d placed'
    first.2.size = second.2.size ∧
    (∀ x < d.size, first.2.parent? x = second.2.parent? x ∧
      first.2.toMarkup x = second.2.toMarkup x) ∧
    ∃ grids grids' : List MountedGrid,
      first.1 = grids.map .ok ∧ grids.map MountedGrid.anchor = placed.map Prod.snd ∧
      second.1 = grids'.map .ok ∧ grids'.map MountedGrid.anchor = placed'.map Prod.snd ∧
      (∀ m ∈ grids, ∀ m' ∈ grids', m.anchor = m'.anchor →
        m.activated = m'.activated ∧
        (first.2.bindingsOn m).map (·.within m.grid) =
          (second.2.bindingsOn m').map (·.within m'.grid) ∧
        first.2.toMarkup m.title = second.2.toMarkup m'.title ∧
        first.2.toMarkup m.grid = second.2.toMarkup m'.grid) ∧
      first.2.bindings = d.bindings ++ grids.flatMap first.2.bindingsOn ∧
      second.2.bindings = d.bindings ++ grids'.flatMap second.2.bindingsOn := by
  intro first second
  have new' : ∀ e ∈ placed', e.1.mounted = none := by
    intro e member
    exact new e (perm.mem_iff.2 member)
  have there' : ∀ e ∈ placed', e.2 < d.size := by
    intro e member
    exact there e (perm.mem_iff.2 member)
  obtain ⟨grids, results, mounts⟩ := mounts_mountAll reachable new there
  obtain ⟨grids', results', mounts'⟩ := mounts_mountAll reachable new' there'
  refine ⟨?_, ?_, ?_⟩
  · rw [mounts.size, mounts'.size, addedCount, addedCount, (perm.map _).sum_eq]
  · intro x old
    refine ⟨?_, mounts.toMarkup_perm reachable.forest mounts' perm distinct old⟩
    rw [mounts.parent x old, mounts'.parent x old]
  · refine ⟨grids, grids', results, anchors_eq mounts.stands, results', anchors_eq mounts'.stands,
      ?_, mounts.bindings, mounts'.bindings⟩
    intro m member m' member' same
    obtain ⟨i, shows, shows', activated⟩ :=
      mounts.alike_perm mounts' perm distinct member member' same
    refine ⟨activated, ?_, ?_, ?_⟩
    · rw [Document.bindingsOn, Document.bindingsOn, shows.bindings, shows'.bindings,
        Markup.map_within_bindingsFrom, Markup.map_within_bindingsFrom, mounts.bindingAttributes,
        mounts'.bindingAttributes]
    · rw [shows.title, shows'.title]
    · rw [shows.grid, shows'.grid]

/-- A component at a node, one inside that node, and one at the root, in two orders. -/
theorem mountAll_perm_nested :
    let d := (Document.opened "body" []).run
      [.append 0 (.element "main" .empty [.text "log", .element "aside" .empty []])]
    let failed : InstanceSummary := { inputs := { instances := [{ statusClass := "failed" }] } }
    let small : InstanceSummary := { inputs := { size := "small" } }
    let placed := [(failed, 1), (small, 3), (small, 0)]
    let placed' := [(small, 3), (small, 0), (failed, 1)]
    (mountAll d placed).2.toMarkup 0 = (mountAll d placed').2.toMarkup 0 ∧
      (mountAll d placed).1.map (·.toOption) =
        [some ⟨1, 8, 4, 1⟩, some ⟨3, 15, 14, 0⟩, some ⟨0, 22, 21, 0⟩] := by
  intro d failed small placed placed'
  have reachable : d.Reachable := Document.reachable_run_opened _ _ _
  have perm : ([(failed, 1)] ++ [(small, 3), (small, 0)]).Perm placed' := List.perm_append_comm
  obtain ⟨-, same, -⟩ := mountAll_perm reachable perm (by simp [failed, small])
    (by decide +kernel) (by decide +kernel)
  exact ⟨(same 0 (by decide +kernel)).2, by decide +kernel⟩

end InstanceSummary

end ConsoleView
