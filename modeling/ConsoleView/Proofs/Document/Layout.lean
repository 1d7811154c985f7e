/-
# ConsoleView.Proofs.Document.Layout -- a laid out tree in the list of nodes

`Markup.layout` writes a tree as a block of nodes: the root first, each node's
children later in the block.  `planted_layout` says what such a block is once it
stands in a document: every node of it but the root is the child of exactly one
node of it, and links run from lower to higher positions only.  Nothing else of
`layout` is used by the invariant of a document.
-/
import ConsoleView.Document.Edit
import Mathlib.Data.List.Nodup
import Mathlib.Tactic.ByContra

namespace ConsoleView.Document

set_option autoImplicit false

/-! ## What a node holds -/

def content? (d : Document) (n : Nat) : Option NodeContent := d.nodes[n]?.map Node.content

def isText (d : Document) (n : Nat) : Bool :=
  match d.content? n with
  | some (.text _) => true
  | _ => false

section Lookup

variable {d : Document} {n : Nat} {node : Node}

theorem content?_of_node (found : d.nodes[n]? = some node) : d.content? n = some node.content := by
  rw [content?, found, Option.map_some]

theorem parent?_of_node (found : d.nodes[n]? = some node) : d.parent? n = node.parent := by
  rw [parent?, found, Option.bind_some]

theorem children_of_node (found : d.nodes[n]? = some node) : d.children n = node.children := by
  rw [children, found]

theorem node_of_lt (inside : n < d.size) : ∃ node, d.nodes[n]? = some node := by
  have bound : n < d.nodes.size := inside
  exact ⟨d.nodes[n], Array.getElem?_eq_getElem bound⟩

theorem node_none_of_le (outside : d.size ≤ n) : d.nodes[n]? = none :=
  Array.getElem?_eq_none outside

theorem children_of_le (outside : d.size ≤ n) : d.children n = [] := by
  rw [children, node_none_of_le outside]

theorem parent?_of_le (outside : d.size ≤ n) : d.parent? n = none := by
  rw [parent?, node_none_of_le outside, Option.bind_none]

theorem lt_of_mem_children {c : Nat} (member : c ∈ d.children n) : n < d.size := by
  by_contra outside
  rw [children_of_le (Nat.le_of_not_lt outside)] at member
  exact List.not_mem_nil member

theorem lt_of_parent? {p : Nat} (parent : d.parent? n = some p) : n < d.size := by
  by_contra outside
  rw [parent?_of_le (Nat.le_of_not_lt outside)] at parent
  cases parent

theorem isText_congr {d' : Document} (same : d'.content? n = d.content? n) :
    d'.isText n = d.isText n := by
  rw [isText, isText, same]

theorem element_of_not_isText (inside : n < d.size) (notText : d.isText n = false) :
    ∃ tag attributes, d.content? n = some (.element tag attributes) := by
  obtain ⟨node, found⟩ := node_of_lt inside
  rw [isText, content?_of_node found] at notText
  rw [content?_of_node found]
  cases content : node.content with
  | element tag attributes => exact ⟨tag, attributes, rfl⟩
  | text text =>
      rw [content] at notText
      cases notText

theorem content?_isSome_iff : (d.content? n).isSome ↔ n < d.size := by
  simp [content?, size]

end Lookup

/-! ## Blocks of nodes -/

/-- The nodes from `start` on are those of the list. -/
def Holds (d : Document) (start : Nat) : List Node → Prop
  | [] => True
  | node :: rest => d.nodes[start]? = some node ∧ d.Holds (start + 1) rest

theorem holds_append {d : Document} {start : Nat} {front back : List Node} :
    d.Holds start (front ++ back) ↔ d.Holds start front ∧ d.Holds (start + front.length) back := by
  induction front generalizing start with
  | nil => simp [Holds]
  | cons node rest ih =>
      have shift : start + 1 + rest.length = start + (rest.length + 1) := by omega
      simp only [List.cons_append, Holds, ih, List.length_cons, shift, and_assoc]

theorem holds_of_getElem? {d : Document} {start : Nat} {nodes : List Node}
    (same : ∀ i < nodes.length, d.nodes[start + i]? = nodes[i]?) : d.Holds start nodes := by
  induction nodes generalizing start with
  | nil => trivial
  | cons node rest ih =>
      refine ⟨by simpa using same 0 (by simp), ih fun i inside => ?_⟩
      have next := same (i + 1) (by simpa using inside)
      rw [show start + 1 + i = start + (i + 1) by omega, next, List.getElem?_cons_succ]

/-- The nodes from `start` to before `stop` are whole trees, in order, whose roots have the parent
`owner`.  `linked` is the converse of `root` and `child`: no node of the block is left over. -/
structure Planted (d : Document) (owner start stop : Nat) (roots : List Nat) : Prop where
  root : ∀ r ∈ roots, start ≤ r ∧ r < stop ∧ d.parent? r = some owner
  distinct_roots : roots.Nodup
  child : ∀ x, start ≤ x → x < stop → ∀ c : Nat, c ∈ d.children x →
    x < c ∧ c < stop ∧ d.parent? c = some x
  distinct : ∀ x, start ≤ x → x < stop → (d.children x).Nodup
  linked : ∀ x, start ≤ x → x < stop →
    x ∈ roots ∨ ∃ y : Nat, start ≤ y ∧ y < stop ∧ x ∈ d.children y
  bare : ∀ x, start ≤ x → x < stop → d.isText x → d.children x = []

namespace Planted

variable {d : Document} {owner start middle stop : Nat}

theorem empty (d : Document) (owner start : Nat) : d.Planted owner start start [] where
  root := by simp
  distinct_roots := List.nodup_nil
  child := fun x low high => by omega
  distinct := fun x low high => by omega
  linked := fun x low high => by omega
  bare := fun x low high => by omega

/-- Two blocks one after the other. -/
theorem append {front back : List Nat} (first : d.Planted owner start middle front)
    (second : d.Planted owner middle stop back) (low : start ≤ middle) (high : middle ≤ stop) :
    d.Planted owner start stop (front ++ back) where
  root := by
    intro r member
    rcases List.mem_append.1 member with inFront | inBack
    · obtain ⟨above, below, parent⟩ := first.root r inFront
      exact ⟨above, by omega, parent⟩
    · obtain ⟨above, below, parent⟩ := second.root r inBack
      exact ⟨by omega, below, parent⟩
  distinct_roots := by
    refine List.nodup_append.2 ⟨first.distinct_roots, second.distinct_roots, ?_⟩
    intro r inFront s inBack
    have below := (first.root r inFront).2.1
    have above := (second.root s inBack).1
    omega
  child := by
    intro x above below c member
    by_cases early : x < middle
    · obtain ⟨up, inside, parent⟩ := first.child x above early c member
      exact ⟨up, by omega, parent⟩
    · exact second.child x (by omega) below c member
  distinct := by
    intro x above below
    by_cases early : x < middle
    · exact first.distinct x above early
    · exact second.distinct x (by omega) below
  linked := by
    intro x above below
    by_cases early : x < middle
    · rcases first.linked x above early with isRoot | ⟨y, low', high', member⟩
      · exact Or.inl (List.mem_append_left _ isRoot)
      · exact Or.inr ⟨y, low', by omega, member⟩
    · rcases second.linked x (by omega) below with isRoot | ⟨y, low', high', member⟩
      · exact Or.inl (List.mem_append_right _ isRoot)
      · exact Or.inr ⟨y, by omega, high', member⟩
  bare := by
    intro x above below isText
    by_cases early : x < middle
    · exact first.bare x above early isText
    · exact second.bare x (by omega) below isText

/-- A block becomes one tree under a node that stands before it and has its roots as children. -/
theorem under {content : NodeContent} {roots : List Nat}
    (node : d.nodes[start]? = some { content, parent := some owner, children := roots })
    (block : d.Planted start (start + 1) stop roots) (room : start < stop)
    (childless : ∀ text, content = .text text → roots = []) :
    d.Planted owner start stop [start] where
  root := by
    intro r member
    rw [List.mem_singleton.1 member]
    exact ⟨Nat.le_refl _, room, parent?_of_node node⟩
  distinct_roots := List.nodup_singleton _
  child := by
    intro x above below c member
    rcases Nat.eq_or_lt_of_le above with rfl | later
    · rw [children_of_node node] at member
      obtain ⟨up, inside, parent⟩ := block.root c member
      exact ⟨up, inside, parent⟩
    · exact block.child x later below c member
  distinct := by
    intro x above below
    rcases Nat.eq_or_lt_of_le above with rfl | later
    · rw [children_of_node node]
      exact block.distinct_roots
    · exact block.distinct x later below
  linked := by
    intro x above below
    rcases Nat.eq_or_lt_of_le above with rfl | later
    · exact Or.inl (List.mem_singleton_self _)
    · refine Or.inr ?_
      rcases block.linked x later below with isRoot | ⟨y, low, high, member⟩
      · exact ⟨start, Nat.le_refl _, room, by rwa [children_of_node node]⟩
      · exact ⟨y, by omega, high, member⟩
  bare := by
    intro x above below isText
    rcases Nat.eq_or_lt_of_le above with rfl | later
    · rw [Document.isText, content?_of_node node] at isText
      rw [children_of_node node]
      cases content with
      | element tag attributes => cases isText
      | text text => exact childless text rfl
    · exact block.bare x later below isText

end Planted

/-! ## Trees laid out -/

theorem nodeCount_pos (m : Markup) : 0 < m.nodeCount := by
  cases m with
  | text content => simp [Markup.nodeCount]
  | element tag attributes children => simp only [Markup.nodeCount]; omega

mutual

/-- **A laid out tree is one tree in the document.** -/
theorem planted_layout (d : Document) (owner start : Nat) (m : Markup)
    (held : d.Holds start (m.layout owner start)) :
    d.Planted owner start (start + m.nodeCount) [start] := by
  match m with
  | .text content =>
      exact (Planted.empty d start (start + 1)).under held.1 (by simp [Markup.nodeCount])
        fun _ _ => rfl
  | .element tag attributes children =>
      obtain ⟨node, rest⟩ := held
      have block := planted_layoutAll d start (start + 1) children rest
      rw [show start + 1 + Markup.nodeCountOfAll children =
        start + (Markup.element tag attributes children).nodeCount by
          simp [Markup.nodeCount, Nat.add_assoc]] at block
      have room := nodeCount_pos (.element tag attributes children)
      exact block.under node (by omega) nofun

theorem planted_layoutAll (d : Document) (owner start : Nat) (ms : List Markup)
    (held : d.Holds start (Markup.layoutAll owner start ms)) :
    d.Planted owner start (start + Markup.nodeCountOfAll ms) (Markup.rootsFrom start ms) := by
  match ms with
  | [] => exact Planted.empty d owner start
  | m :: rest =>
      obtain ⟨front, back⟩ := holds_append.1 held
      rw [Markup.length_layout] at back
      have first := planted_layout d owner start m front
      have second := planted_layoutAll d owner (start + m.nodeCount) rest back
      rw [Nat.add_assoc] at second
      exact first.append second (by omega) (by simp [Markup.nodeCountOfAll])

end

end ConsoleView.Document
