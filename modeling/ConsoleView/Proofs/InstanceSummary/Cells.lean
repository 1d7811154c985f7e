/-
# ConsoleView.Proofs.InstanceSummary.Cells -- one cell per instance

The grid is made by adding one cell after another, and the cell of an instance is
at its number (`buildGrid_eq_foldl`).  So no instance is lost, doubled or moved,
and a longer list begins with the same cells.  A cell says what its instance is:
number, label and status classes (`grid_of_cells`).
-/
import ConsoleView.Proofs.InstanceSummary.Labels
import ConsoleView.Proofs.Markup.Classes

namespace ConsoleView

set_option autoImplicit false

/-! ## A cell -/

namespace Element

variable {e : Element} {name : String}

theorem attribute?_withAttribute (e : Element) (name value other : String) :
    (e.withAttribute name value).attribute? other =
      if other = name then some value else e.attribute? other :=
  Attributes.get?_set e.attributes name value other

@[simp] theorem attribute?_withChild (e : Element) (child : Markup) (name : String) :
    (e.withChild child).attribute? name = e.attribute? name := rfl

@[simp] theorem classTokens_withChild (e : Element) (child : Markup) :
    (e.withChild child).classTokens = e.classTokens := rfl

theorem classTokens_withAttribute_of_ne (other : "class" ≠ name) (value : String) :
    (e.withAttribute name value).classTokens = e.classTokens := by
  rw [classTokens, attribute?_withAttribute, if_neg other, classTokens]

/-- An element without a class attribute gets one unless the text is blank. -/
theorem class_withClass_eq_none_iff (unset : e.attribute? "class" = none) (s : String) :
    (e.withClass s).attribute? "class" = none ↔ Text.IsBlankText s := by
  rcases e.withClass_cases s with ⟨blank, same⟩ | ⟨filled, value, -, set⟩
  · rw [same]
    exact iff_of_true unset blank
  · rw [set, attribute?_withAttribute, if_pos rfl]
    exact iff_of_false nofun filled

end Element

section Cell

variable (n : Nat) (record : InstanceRecord)

theorem textContent_gridCell : (gridCell n record).textContent = toString n := by
  rw [Element.textContent, toMarkup_gridCell]
  simp [Markup.textContent, Markup.textOfAll]

theorem tooltip_gridCell :
    (gridCell n record).attribute? "tooltip" = some (cellLabel n record) := by
  simp [gridCell, Element.attribute?_withAttribute]

theorem classTokens_gridCell :
    (gridCell n record).classTokens = Text.words record.statusClass := by
  rw [gridCell, Element.classTokens_withChild,
    Element.classTokens_withAttribute_of_ne (by decide), Element.classTokens_withClass]
  rfl

theorem class_gridCell_eq_none_iff :
    (gridCell n record).attribute? "class" = none ↔ Text.IsBlankText record.statusClass := by
  rw [gridCell, Element.attribute?_withChild, Element.attribute?_withAttribute,
    if_neg (by decide)]
  exact Element.class_withClass_eq_none_iff rfl _

/-- The elements of a cell are itself and the one around its number. -/
theorem length_elements_gridCell : (gridCell n record).toMarkup.elements.length = 2 := by
  rw [toMarkup_gridCell]
  rfl

end Cell

/-! ## The grid -/

theorem classTokens_gridFrame (size : String) :
    (gridFrame size).classTokens = "instance-grid" :: Text.words size := by
  have first :
      ((Element.named "ul").withClass "instance-grid").classTokens = ["instance-grid"] := by
    decide +kernel
  rw [gridFrame, Element.classTokens_withClass, first]
  rfl

/-- Adding the cells of a list one by one puts them behind the children that are there. -/
theorem foldl_withChild_cells (instances : List InstanceRecord) (first : Nat) (e : Element) :
    (instances.zipIdx first).foldl
        (fun grid numbered => grid.withChild (gridCell numbered.2 numbered.1).toMarkup) e =
      { e with children := e.children ++
          instances.mapIdx fun n record => (gridCell (first + n) record).toMarkup } := by
  induction instances generalizing first e with
  | nil => simp
  | cons record rest ih =>
      have next : ∀ n, first + 1 + n = first + (n + 1) := fun n => by omega
      rw [List.zipIdx_cons, List.foldl_cons, ih, List.mapIdx_cons]
      simp [Element.withChild, next]

/-- The grid is its frame with the cells added one after another. -/
theorem buildGrid_eq_foldl (instances : List InstanceRecord) (size : String) :
    buildGrid instances size = instances.zipIdx.foldl
      (fun grid numbered => grid.withChild (gridCell numbered.2 numbered.1).toMarkup)
      (gridFrame size) := by
  have frame : (gridFrame size).children = [] := by simp [gridFrame, Element.named]
  rw [foldl_withChild_cells, frame, buildGrid]
  simp

theorem classTokens_buildGrid (instances : List InstanceRecord) (size : String) :
    (buildGrid instances size).classTokens = "instance-grid" :: Text.words size := by
  have framed : (buildGrid instances size).attributes = (gridFrame size).attributes := by
    rw [buildGrid]
  rw [← classTokens_gridFrame, Element.classTokens, Element.attribute?, Element.classTokens,
    Element.attribute?, framed]

theorem children_buildGrid (instances : List InstanceRecord) (size : String) :
    (buildGrid instances size).children =
      (instances.mapIdx gridCell).map Element.toMarkup := by
  rw [buildGrid, List.mapIdx_eq_zipIdx_map, List.mapIdx_eq_zipIdx_map, List.map_map]
  rfl

theorem childElements_buildGrid (instances : List InstanceRecord) (size : String) :
    (buildGrid instances size).childElements = instances.mapIdx gridCell := by
  have only : Markup.element? ∘ Element.toMarkup = some := rfl
  rw [Element.childElements, children_buildGrid, List.filterMap_map, only, List.filterMap_some]

theorem length_elementsOfAll_mapIdx {instances : List InstanceRecord}
    {cell : Nat → InstanceRecord → Markup}
    (each : ∀ n record, (cell n record).elements.length = 2) :
    (Markup.elementsOfAll (instances.mapIdx cell)).length = 2 * instances.length := by
  induction instances generalizing cell with
  | nil => rfl
  | cons record rest ih =>
      rw [List.mapIdx_cons, Markup.elementsOfAll, List.length_append, each,
        ih fun n => each (n + 1), List.length_cons]
      omega

theorem length_elements_buildGrid (instances : List InstanceRecord) (size : String) :
    (buildGrid instances size).toMarkup.elements.length = 2 * instances.length + 1 := by
  rw [buildGrid, Element.toMarkup, Markup.elements, List.length_cons,
    length_elementsOfAll_mapIdx length_elements_gridCell]

/-- **The grid loses, doubles and moves nothing.**  It is made by adding the cells one after another
to its frame, and its children are elements, as many as there are instances.  The cell at each
position has the position as its text, the label of its instance as its tooltip, and the words of
the instance's status as its classes, without a class attribute if there are none.  A longer list
begins with the same cells. -/
theorem grid_of_cells (instances : List InstanceRecord) (size : String) :
    buildGrid instances size = instances.zipIdx.foldl
        (fun grid numbered => grid.withChild (gridCell numbered.2 numbered.1).toMarkup)
        (gridFrame size) ∧
      (buildGrid instances size).children =
        (buildGrid instances size).childElements.map Element.toMarkup ∧
      (buildGrid instances size).childElements.length = instances.length ∧
      (∀ n record, instances[n]? = some record → ∃ cell : Element,
        (buildGrid instances size).childElements[n]? = some cell ∧
        cell.textContent = toString n ∧
        cell.attribute? "tooltip" = some (cellLabel n record) ∧
        cell.classTokens = Text.words record.statusClass ∧
        (cell.attribute? "class" = none ↔ Text.IsBlankText record.statusClass)) ∧
      (buildGrid instances size).classTokens = "instance-grid" :: Text.words size ∧
      (buildGrid instances size).toMarkup.elements.length = 2 * instances.length + 1 ∧
      ∀ (more : List InstanceRecord) (other : String),
        (buildGrid (instances ++ more) other).children.take instances.length =
          (buildGrid instances size).children := by
  refine ⟨buildGrid_eq_foldl instances size, ?_, ?_, ?_, classTokens_buildGrid instances size,
    length_elements_buildGrid instances size, ?_⟩
  · rw [childElements_buildGrid, children_buildGrid]
  · rw [childElements_buildGrid, List.length_mapIdx]
  · intro n record found
    refine ⟨gridCell n record, ?_, textContent_gridCell n record, tooltip_gridCell n record,
      classTokens_gridCell n record, class_gridCell_eq_none_iff n record⟩
    rw [childElements_buildGrid, List.getElem?_mapIdx, found, Option.map_some]
  · intro more other
    rw [buildGrid, List.mapIdx_append, buildGrid]
    exact List.take_left' List.length_mapIdx

/-- Two instances, one without a status and one with odd blanks in it. -/
theorem cells_of_odd_statuses :
    let instances : List InstanceRecord :=
      [{ statusClass := " " }, { statusClass := "ok\u00a0\tß " }]
    ∃ blank odd : Element,
      (buildGrid instances "big").childElements[0]? = some blank ∧
      (buildGrid instances "big").childElements[1]? = some odd ∧
      blank.attribute? "class" = none ∧ odd.textContent = "1" ∧ odd.classTokens = ["ok", "ß"] ∧
      odd.attribute? "tooltip" = some "INSTANCE 1: OK\u00a0\tSS " := by
  intro instances
  obtain ⟨-, -, -, cells, -⟩ := grid_of_cells instances "big"
  obtain ⟨blank, first, -, -, -, unset⟩ := cells 0 { statusClass := " " } rfl
  obtain ⟨odd, second, number, label, tokens, -⟩ :=
    cells 1 { statusClass := "ok\u00a0\tß " } rfl
  refine ⟨blank, odd, first, second, unset.2 (by decide), number.trans (by decide),
    tokens.trans (by decide +kernel), label.trans (by decide +kernel)⟩

end ConsoleView
