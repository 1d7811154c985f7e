/-
# ConsoleView.Proofs.Document.ReadBack -- markup that is put in and read back

The new nodes of an edit are one block: their positions are consecutive, and the
block is the tree that was put in, each node before those inside it.  So the
walk from the new root visits the block in order, the places of the tree are the
nodes of the block, and the elements of the block are those of the tree.

Reading a tree back makes it again, attribute by attribute and child by child.
Setting an attribute anew would replace the first one, but the names in a list
of attributes differ, so what is made is what stands there
(`Document.rebuild_eq`).
-/
import ConsoleView.Proofs.Document.Rendered

namespace ConsoleView

set_option autoImplicit false

/-! ## Making a tree again -/

namespace Attributes

def setAll (attributes : Attributes) (pairs : List (String × String)) : Attributes :=
  pairs.foldl (fun attributes pair => attributes.set pair.1 pair.2) attributes

/-- New names come after those that are there. -/
theorem pairs_setAll {attributes : Attributes} {pairs : List (String × String)}
    (distinct : ((attributes.pairs ++ pairs).map Prod.fst).Nodup) :
    (attributes.setAll pairs).pairs = attributes.pairs ++ pairs := by
  induction pairs generalizing attributes with
  | nil => exact (List.append_nil _).symm
  | cons pair rest ih =>
      have fresh : ∀ other ∈ attributes.pairs, other.1 ≠ pair.1 := by
        rw [List.map_append, List.map_cons] at distinct
        intro other member
        exact (List.nodup_append.1 distinct).2.2 _ (List.mem_map_of_mem member) _ List.mem_cons_self
      have put : (attributes.set pair.1 pair.2).pairs = attributes.pairs ++ [pair] :=
        setPair_of_not_mem fresh
      have next := @ih (attributes.set pair.1 pair.2)
      rw [put, List.append_assoc, List.singleton_append] at next
      exact next distinct

/-- Attributes that are set one after another in their order are the same attributes. -/
theorem setAll_pairs (attributes : Attributes) : empty.setAll attributes.pairs = attributes :=
  ext_pairs (pairs_setAll attributes.distinct)

end Attributes

namespace Element

theorem foldl_withAttribute (e : Element) (pairs : List (String × String)) :
    pairs.foldl (fun e pair => e.withAttribute pair.1 pair.2) e =
      { e with attributes := e.attributes.setAll pairs } := by
  induction pairs generalizing e with
  | nil => rfl
  | cons pair rest ih => exact ih (e.withAttribute pair.1 pair.2)

theorem foldl_withChild (e : Element) (children : List Markup) :
    children.foldl withChild e = { e with children := e.children ++ children } := by
  induction children generalizing e with
  | nil => rw [List.append_nil]; rfl
  | cons m rest ih =>
      rw [List.foldl_cons, ih (e.withChild m), withChild, List.append_assoc]
      rfl

end Element

/-- Make the tree of a content and some children, one attribute and one child after another. -/
def NodeContent.rebuild : NodeContent → List Markup → Markup
  | .text content, _ => .text content
  | .element tag attributes, children =>
      let bare := attributes.pairs.foldl (fun e pair => e.withAttribute pair.1 pair.2)
        (Element.named tag)
      (children.foldl Element.withChild bare).toMarkup

theorem NodeContent.rebuild_eq (content : NodeContent) (children : List Markup) :
    content.rebuild children = content.tree children := by
  cases content with
  | text content => rfl
  | element tag attributes =>
      have same : (Element.named tag).attributes.setAll attributes.pairs = attributes :=
        attributes.setAll_pairs
      rw [rebuild, Element.foldl_withAttribute, Element.foldl_withChild, same]
      rfl

namespace Document

def rebuildFrom (d : Document) : (fuel : Nat) → NodeId → Option Markup
  | 0, _ => none
  | fuel + 1, n =>
      (d.content? n).map fun content =>
        content.rebuild ((d.children n).filterMap (rebuildFrom d fuel))

/-- Make the tree below a node again. -/
def rebuild (d : Document) (n : NodeId) : Option Markup := d.rebuildFrom d.size n

/-- **The tree that is made again is the tree that stands there.** -/
theorem rebuild_eq (d : Document) (n : Nat) : d.rebuild n = d.toMarkup n := by
  suffices same : ∀ fuel, d.rebuildFrom fuel = d.markupFrom fuel from congrFun (same d.size) n
  intro fuel
  induction fuel with
  | zero => rfl
  | succ fuel ih =>
      funext n
      rw [rebuildFrom, markupFrom_succ, ih]
      simp only [NodeContent.rebuild_eq]

/-! ## The block of a tree -/

def element? (d : Document) (n : Nat) : Option (String × Attributes) :=
  match d.content? n with
  | some (.element tag attributes) => some (tag, attributes)
  | _ => none

mutual

/-- The walk of a laid out tree visits its block from the first node to the last. -/
theorem subtreeFrom_layout (d : Document) (owner start : Nat) (m : Markup) {fuel : Nat}
    (held : d.Holds start (m.layout owner start)) (enough : m.nodeCount ≤ fuel) :
    d.subtreeFrom fuel start = List.range' start m.nodeCount := by
  obtain ⟨fuel, rfl⟩ : ∃ k, fuel = k + 1 := ⟨fuel - 1, by have := nodeCount_pos m; omega⟩
  match m with
  | .text content =>
      obtain ⟨node, -⟩ := held
      rw [subtreeFrom, children_of_node node]
      rfl
  | .element tag attributes children =>
      obtain ⟨node, rest⟩ := held
      rw [Markup.nodeCount] at enough
      have room : Markup.nodeCountOfAll children ≤ fuel := by omega
      have below := subtreesFrom_layoutAll d start (start + 1) children rest room
      rw [subtreeFrom, children_of_node node, below, Markup.nodeCount, Nat.add_comm 1,
        List.range'_succ]

theorem subtreesFrom_layoutAll (d : Document) (owner start : Nat) (ms : List Markup) {fuel : Nat}
    (held : d.Holds start (Markup.layoutAll owner start ms))
    (enough : Markup.nodeCountOfAll ms ≤ fuel) :
    (Markup.rootsFrom start ms).flatMap (d.subtreeFrom fuel) =
      List.range' start (Markup.nodeCountOfAll ms) := by
  match ms with
  | [] => rfl
  | m :: rest =>
      obtain ⟨front, back⟩ := holds_append.1 held
      rw [Markup.length_layout] at back
      rw [Markup.nodeCountOfAll] at enough
      rw [Markup.rootsFrom, List.flatMap_cons,
        subtreeFrom_layout d owner start m front (by omega),
        subtreesFrom_layoutAll d owner (start + m.nodeCount) rest back (by omega),
        List.range'_append_1, Markup.nodeCountOfAll]

end

mutual

/-- The elements of a block are those of its tree, each before those inside it. -/
theorem elements_layout (d : Document) (owner start : Nat) (m : Markup)
    (held : d.Holds start (m.layout owner start)) :
    (List.range' start m.nodeCount).filterMap d.element? =
      m.elements.map fun e => (e.tag, e.attributes) := by
  match m with
  | .text content =>
      have bare : d.element? start = none := by rw [element?, content?_of_node held.1]
      exact List.filterMap_cons_none bare
  | .element tag attributes children =>
      obtain ⟨node, rest⟩ := held
      have head : d.element? start = some (tag, attributes) := by
        rw [element?, content?_of_node node]
      rw [Markup.nodeCount, Nat.add_comm 1, List.range'_succ, List.filterMap_cons_some head,
        elements_layoutAll d start (start + 1) children rest, Markup.elements, List.map_cons]

theorem elements_layoutAll (d : Document) (owner start : Nat) (ms : List Markup)
    (held : d.Holds start (Markup.layoutAll owner start ms)) :
    (List.range' start (Markup.nodeCountOfAll ms)).filterMap d.element? =
      (Markup.elementsOfAll ms).map fun e => (e.tag, e.attributes) := by
  match ms with
  | [] => rfl
  | m :: rest =>
      obtain ⟨front, back⟩ := holds_append.1 held
      rw [Markup.length_layout] at back
      rw [Markup.nodeCountOfAll, ← List.range'_append_1, List.filterMap_append,
        elements_layout d owner start m front,
        elements_layoutAll d owner (start + m.nodeCount) rest back, Markup.elementsOfAll,
        List.map_append]

end

/-! ## What an edit has put in -/

/-- The tree `m` is a block of new nodes behind those of `d`, and reads back as `m`. -/
structure PutIn (d : Document) (m : Markup) (d' : Document) (id : Nat) : Prop where
  root : id = d.size
  size : d'.size = d.size + m.nodeCount
  toMarkup : d'.toMarkup id = some m
  rebuild : d'.rebuild id = some m
  /-- The places of the tree, each before those inside it, are the new nodes in order. -/
  places : m.paths.map (d'.nodeAt? id) = (List.range' id m.nodeCount).map some
  subtree : d'.subtree id = List.range' id m.nodeCount
  elements : (List.range' id m.nodeCount).filterMap d'.element? =
    m.elements.map fun e => (e.tag, e.attributes)

/-- **A splice puts its tree in.** -/
theorem Forest.putIn {d d' : Document} {p i k : Nat} {m : Markup} (forest : d.Forest)
    (spliced : d.Spliced p m i k d') : d.PutIn m d' d.size := by
  have forest' := forest.spliced spliced
  have enough : m.nodeCount ≤ d'.size := by rw [spliced.size]; omega
  have room := nodeCount_pos m
  have inside : d.size < d'.size := by rw [spliced.size]; omega
  have read : d'.toMarkup d.size = some m :=
    markupFrom_layout d' p d.size m spliced.held enough
  have walked : d'.subtree d.size = List.range' d.size m.nodeCount :=
    subtreeFrom_layout d' p d.size m spliced.held enough
  have shown : d'.rendered d.size = d'.subtree d.size := by
    refine (forest'.rendered_eq_subtree_iff inside).2 fun x member => ?_
    exact (planted_spliced spliced).bare x (forest'.le_of_mem_subtree member)
      (forest'.lt_of_mem_subtree inside member)
  refine { root := rfl, size := spliced.size, toMarkup := read, rebuild := ?_, places := ?_,
           subtree := walked, elements := elements_layout d' p d.size m spliced.held }
  · rw [rebuild_eq, read]
  · rw [← walked, ← shown, forest'.rendered_eq inside, ← forest'.map_paths_shown inside,
      shown_new spliced]

/-- **What is put in is read back**, at every point of a history.  Appending to a node that is there
succeeds; the new root stands behind all nodes that were there, the tree takes one position for each
of its nodes, each before those inside it, and reads back as it was; the elements among the new
nodes are its elements in order.  So it is for an insertion and a replacement that succeed. -/
theorem run_opened_read_back (tag : String) (attributes : List String) (calls : List Call) :
    let d := (opened tag attributes).run calls
    (∀ parent < d.size, ∀ m, ∃ d', d.append parent m = .ok (d', d.size) ∧ d.PutIn m d' d.size) ∧
    (∀ parent m reference d' id, d.insertBefore parent m reference = .ok (d', id) →
      d.PutIn m d' id) ∧
    ∀ n m d' id, d.replaceWith n m = .ok (d', id) → d.PutIn m d' id := by
  intro d
  have forest : d.Forest := forest_run_opened tag attributes calls
  refine ⟨?_, ?_, ?_⟩
  · intro parent inside m
    obtain ⟨d', done⟩ : ∃ d', d.append parent m = .ok (d', d.size) :=
      ⟨_, by rw [append, if_pos inside]⟩
    exact ⟨d', done, forest.putIn (spliced_append done).2⟩
  · intro parent m reference d' id done
    obtain ⟨rfl, i, -, spliced⟩ := spliced_insertBefore done
    exact forest.putIn spliced
  · intro n m d' id done
    obtain ⟨rfl, p, i, -, spliced⟩ := forest.spliced_replaceWith done
    exact forest.putIn spliced

/-- An attribute that is set twice keeps its place and its second value, and texts side by side stay
apart, an empty one among them; so it is read back before a text and in its place. -/
theorem item_beside_text_read_back :
    let d := (opened "body" []).run [.append 0 (.text "t")]
    let item := ((((((Element.named "li").withAttribute "id" "a").withClass " wide ").withAttribute
      "id" "b").withText "x").withText "").withChild ((Element.named "b").withText "y").toMarkup
    (∃ inserted, d.insertBefore 0 item 1 = .ok (inserted, 2) ∧
      inserted.toMarkup 2 = some item.toMarkup) ∧
    ∃ replaced, d.replaceWith 1 item = .ok (replaced, 2) ∧
      replaced.subtree 2 = [2, 3, 4, 5, 6] ∧
      [2, 3, 4, 5, 6].filterMap replaced.element? =
        [("li", (Attributes.empty.set "id" "b").set "class" "wide"), ("b", .empty)] := by
  intro d item
  obtain ⟨-, inserts, replaces⟩ := run_opened_read_back "body" [] [.append 0 (.text "t")]
  refine ⟨⟨_, rfl, (inserts 0 item 1 _ 2 rfl).toMarkup⟩, ⟨_, rfl, ?_⟩⟩
  obtain ⟨-, -, -, -, -, walked, elements⟩ := replaces 1 item _ 2 rfl
  exact ⟨walked, elements.trans (by decide +kernel)⟩

end Document

end ConsoleView
