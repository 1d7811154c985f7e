/-
# ConsoleView.Proofs.InstanceSummary.Labels -- the declarative attributes of the grid

The elements of the grid have classes, and each cell has its label as a tooltip.
If tooltips are all that is declarative, the bindings of the grid are the labels
of its cells, in order (`bindingsFrom_buildGrid`).  A cell takes three nodes:
itself, the element around its number, and the number.
-/
import ConsoleView.Component.Grid
import ConsoleView.Proofs.Markup.Bindings

namespace ConsoleView

set_option autoImplicit false

/-! ## Attributes of built elements -/

namespace Element

def HasOnlyClass (e : Element) : Prop := ∀ pair ∈ e.attributes.pairs, pair.1 = "class"

theorem hasOnlyClass_named (tag : String) : (named tag).HasOnlyClass := nofun

theorem HasOnlyClass.withAttribute {e : Element} (only : e.HasOnlyClass) (value : String) :
    (e.withAttribute "class" value).HasOnlyClass := by
  intro pair member
  have name : pair.1 ∈ (setPair "class" value e.attributes.pairs).map Prod.fst :=
    List.mem_map_of_mem member
  rcases mem_names_setPair.1 name with same | old
  · exact same
  · obtain ⟨other, known, same⟩ := List.mem_map.1 old
    rw [← same, only other known]

theorem HasOnlyClass.withClass {e : Element} (only : e.HasOnlyClass) (tokens : String) :
    (e.withClass tokens).HasOnlyClass := by
  simp only [Element.withClass]
  split
  · exact only
  · split
    · exact only.withAttribute _
    · split <;> exact only.withAttribute _

/-- A tooltip is put behind the class. -/
theorem HasOnlyClass.pairs_withTooltip {e : Element} (only : e.HasOnlyClass) (value : String) :
    (e.withAttribute "tooltip" value).attributes.pairs =
      e.attributes.pairs ++ [("tooltip", value)] := by
  refine setPair_of_not_mem fun pair member => ?_
  rw [only pair member]
  decide

@[simp] theorem children_withAttribute (e : Element) (name value : String) :
    (e.withAttribute name value).children = e.children := rfl

@[simp] theorem tag_withAttribute (e : Element) (name value : String) :
    (e.withAttribute name value).tag = e.tag := rfl

@[simp] theorem children_withClass (e : Element) (tokens : String) :
    (e.withClass tokens).children = e.children := by
  simp only [withClass]
  split
  · rfl
  · split
    · rfl
    · split <;> rfl

@[simp] theorem tag_withClass (e : Element) (tokens : String) :
    (e.withClass tokens).tag = e.tag := by
  simp only [withClass]
  split
  · rfl
  · split
    · rfl
    · split <;> rfl

end Element

/-- Classes are not declarative unless they are declared so. -/
theorem declaredAt_eq_nil {names : List String} {scope : Scope} {n : Nat} {e : Element}
    (undeclared : "class" ∉ names) (only : e.HasOnlyClass) :
    declaredAt names scope n e.attributes.pairs = [] := by
  refine List.filterMap_eq_nil_iff.2 fun pair member => if_neg ?_
  rw [only pair member]
  simpa using undeclared

/-! ## Cells -/

/-- The nodes of a cell: itself, and its number in an element of its own. -/
theorem toMarkup_gridCell (n : Nat) (record : InstanceRecord) :
    (gridCell n record).toMarkup =
      .element "li"
        (((Element.named "li").withClass record.statusClass).withAttribute "tooltip"
          (cellLabel n record)).attributes
        [.element "span" ((Element.named "span").withClass "instance-id").attributes
          [.text (toString n)]] := by
  simp [gridCell, Element.toMarkup, Element.withChild, Element.withText, Element.named]

theorem nodeCount_gridCell (n : Nat) (record : InstanceRecord) :
    (gridCell n record).toMarkup.nodeCount = 3 := by
  rw [toMarkup_gridCell]
  rfl

/-- The cells stand one behind the other, three nodes apart. -/
theorem rootsFrom_cells (start first : Nat) (instances : List InstanceRecord) :
    Markup.rootsFrom start
        (instances.mapIdx fun n record => (gridCell (first + n) record).toMarkup) =
      instances.mapIdx fun n _ => start + 3 * n := by
  induction instances generalizing start first with
  | nil => rfl
  | cons record rest ih =>
      have later := ih (start + 3) (first + 1)
      have cells : ∀ n, first + 1 + n = first + (n + 1) := fun n => by omega
      have nodes : ∀ n, start + 3 + 3 * n = start + 3 * (n + 1) := fun n => by omega
      simp only [cells, nodes] at later
      rw [List.mapIdx_cons, List.mapIdx_cons, Markup.rootsFrom, nodeCount_gridCell, later]
      rfl

section Tooltips

variable {names : List String} (tooltips : ∀ name, name ∈ names ↔ name = "tooltip")
include tooltips

theorem bindingsFrom_gridCell (scope : Scope) (start n : Nat) (record : InstanceRecord) :
    (gridCell n record).toMarkup.bindingsFrom names scope start =
      [{ node := start, name := "tooltip", expression := cellLabel n record, scope }] := by
  have undeclared : "class" ∉ names := by simp [tooltips]
  have cellClass := (Element.hasOnlyClass_named "li").withClass record.statusClass
  have numberClass := (Element.hasOnlyClass_named "span").withClass "instance-id"
  have label : declaredAt names scope start [("tooltip", cellLabel n record)] =
      [{ node := start, name := "tooltip", expression := cellLabel n record, scope }] := by
    simp [declaredAt, tooltips]
  have split : declaredAt names scope start
      (((Element.named "li").withClass record.statusClass).attributes.pairs ++
        [("tooltip", cellLabel n record)]) =
      [{ node := start, name := "tooltip", expression := cellLabel n record, scope }] := by
    rw [declaredAt, List.filterMap_append, ← declaredAt, ← declaredAt, label,
      declaredAt_eq_nil undeclared cellClass, List.nil_append]
  simp only [toMarkup_gridCell, Markup.bindingsFrom, Markup.bindingsFromAll,
    cellClass.pairs_withTooltip, split, declaredAt_eq_nil undeclared numberClass,
    List.append_nil]

theorem bindingsFromAll_cells (scope : Scope) (start first : Nat)
    (instances : List InstanceRecord) :
    Markup.bindingsFromAll names scope start
        (instances.mapIdx fun n record => (gridCell (first + n) record).toMarkup) =
      instances.mapIdx fun n record =>
        { node := start + 3 * n, name := "tooltip", expression := cellLabel (first + n) record,
          scope } := by
  induction instances generalizing start first with
  | nil => rfl
  | cons record rest ih =>
      have later := ih (start + 3) (first + 1)
      have cells : ∀ n, first + 1 + n = first + (n + 1) := fun n => by omega
      have nodes : ∀ n, start + 3 + 3 * n = start + 3 * (n + 1) := fun n => by omega
      simp only [cells, nodes] at later
      rw [List.mapIdx_cons, List.mapIdx_cons, Markup.bindingsFromAll,
        bindingsFrom_gridCell tooltips, nodeCount_gridCell, later]
      rfl

/-- **The bindings of the grid are the labels of its cells.** -/
theorem bindingsFrom_buildGrid (scope : Scope) (start : Nat) (instances : List InstanceRecord)
    (size : String) :
    (buildGrid instances size).toMarkup.bindingsFrom names scope start =
      instances.mapIdx fun n record =>
        { node := start + 1 + 3 * n, name := "tooltip", expression := cellLabel n record,
          scope } := by
  have undeclared : "class" ∉ names := by simp [tooltips]
  have frameClass : (gridFrame size).HasOnlyClass :=
    ((Element.hasOnlyClass_named "ul").withClass "instance-grid").withClass size
  have cells := bindingsFromAll_cells tooltips scope (start + 1) 0 instances
  simp only [Nat.zero_add] at cells
  rw [buildGrid, Element.toMarkup, Markup.bindingsFrom, declaredAt_eq_nil undeclared frameClass,
    cells, List.nil_append]

end Tooltips

end ConsoleView
