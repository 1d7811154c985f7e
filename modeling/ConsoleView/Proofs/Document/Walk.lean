/-
# ConsoleView.Proofs.Document.Walk -- the walks of a forest

The walks of a document carry fuel.  In a forest it never runs out: a child's
position is higher than its parent's, so a walk from `n` is never deeper than
`size - n`.  The walks then satisfy the equations they were written for, without
fuel (`Forest.toMarkup_eq`, `Forest.subtree_eq`), and `Forest.descent` is the
induction that goes with them.

`nodeAt?` follows a path of places among children.  Paths name the nodes below a
node exactly: each of them has one path (`Forest.mem_subtree_iff_path`,
`Forest.path_unique`).
-/
import ConsoleView.Proofs.Document.Forest
import Mathlib.Data.List.Pairwise
import Mathlib.Logic.Relation

namespace ConsoleView

set_option autoImplicit false

/-- A content with children; a text shows none. -/
def NodeContent.tree : NodeContent → List Markup → Markup
  | .text content, _ => .text content
  | .element tag attributes, children => .element tag attributes children

namespace Document

def shown (d : Document) (n : Nat) : Markup := (d.toMarkup n).getD default

/-- The node at the end of a path of places among children. -/
def nodeAt? (d : Document) : Nat → List Nat → Option Nat
  | n, [] => some n
  | n, i :: path =>
      match (d.children n)[i]? with
      | some c => d.nodeAt? c path
      | none => none

theorem markupFrom_succ (d : Document) (fuel n : Nat) :
    d.markupFrom (fuel + 1) n =
      (d.content? n).map fun content =>
        content.tree ((d.children n).filterMap (d.markupFrom fuel)) := by
  rw [markupFrom]
  split <;> rename_i found <;> simp [content?, children, found, NodeContent.tree]

/-! ## What walks depend on -/

section Congr

variable {d d' : Document}

theorem markupFrom_congr (same : d'.nodes = d.nodes) (fuel n : Nat) :
    d'.markupFrom fuel n = d.markupFrom fuel n := by
  induction fuel generalizing n with
  | zero => rfl
  | succ fuel ih =>
      rw [markupFrom_succ, markupFrom_succ, content?, children, same, funext ih]
      rfl

theorem subtreeFrom_congr (same : d'.nodes = d.nodes) (fuel n : Nat) :
    d'.subtreeFrom fuel n = d.subtreeFrom fuel n := by
  induction fuel generalizing n with
  | zero => rfl
  | succ fuel ih =>
      rw [subtreeFrom, subtreeFrom, children, same, funext ih]
      rfl

theorem toMarkup_congr (same : d'.nodes = d.nodes) (n : Nat) : d'.toMarkup n = d.toMarkup n := by
  rw [toMarkup, toMarkup, size, size, same, markupFrom_congr same]

theorem subtree_congr (same : d'.nodes = d.nodes) (n : Nat) : d'.subtree n = d.subtree n := by
  rw [subtree, subtree, size, size, same, subtreeFrom_congr same]

end Congr

namespace Forest

variable {d : Document} {n p c x y : Nat}

/-! ## Going down -/

/-- Going from nodes to their children comes to an end. -/
theorem descent (forest : d.Forest) : WellFounded fun c p : Nat => c ∈ d.children p := by
  refine Subrelation.wf (fun {c p} member => ?_) (measure fun n : Nat => d.size - n).wf
  have up := forest.later p c member
  have inside := forest.child_lt member
  show d.size - c < d.size - p
  omega

/-- Fuel for `size - n` steps is enough from `n`, and more makes no difference. -/
theorem markupFrom_fuel (forest : d.Forest) {fuel more : Nat} (inside : n < d.size)
    (enough : d.size ≤ n + fuel) (enough' : d.size ≤ n + more) :
    d.markupFrom fuel n = d.markupFrom more n := by
  induction fuel generalizing more n with
  | zero => omega
  | succ fuel ih =>
      obtain ⟨more, rfl⟩ : ∃ k, more = k + 1 := ⟨more - 1, by omega⟩
      have below : (d.children n).filterMap (d.markupFrom fuel) =
          (d.children n).filterMap (d.markupFrom more) := by
        refine List.filterMap_congr fun c member => ?_
        have up := forest.later n c member
        exact ih (forest.child_lt member) (by omega) (by omega)
      rw [markupFrom_succ, markupFrom_succ, below]

theorem subtreeFrom_fuel (forest : d.Forest) {fuel more : Nat} (inside : n < d.size)
    (enough : d.size ≤ n + fuel) (enough' : d.size ≤ n + more) :
    d.subtreeFrom fuel n = d.subtreeFrom more n := by
  induction fuel generalizing more n with
  | zero => omega
  | succ fuel ih =>
      obtain ⟨more, rfl⟩ : ∃ k, more = k + 1 := ⟨more - 1, by omega⟩
      have below : (d.children n).flatMap (d.subtreeFrom fuel) =
          (d.children n).flatMap (d.subtreeFrom more) := by
        refine List.flatMap_congr fun c member => ?_
        have up := forest.later n c member
        exact ih (forest.child_lt member) (by omega) (by omega)
      rw [subtreeFrom, subtreeFrom, below]

/-- **The tree below a node is its content with the trees below its children.** -/
theorem toMarkup_eq (forest : d.Forest) (n : Nat) :
    d.toMarkup n = (d.content? n).map fun content =>
      content.tree ((d.children n).filterMap d.toMarkup) := by
  obtain ⟨fuel, room⟩ : ∃ k, d.size = k + 1 := ⟨d.size - 1, by have := forest.rooted; omega⟩
  have below : (d.children n).filterMap (d.markupFrom fuel) =
      (d.children n).filterMap d.toMarkup := by
    refine List.filterMap_congr fun c member => ?_
    have up := forest.later n c member
    exact forest.markupFrom_fuel (forest.child_lt member) (by omega) (by omega)
  rw [toMarkup, room, markupFrom_succ, below]

/-- **The nodes below a node are itself and those below its children.** -/
theorem subtree_eq (forest : d.Forest) (n : Nat) :
    d.subtree n = n :: (d.children n).flatMap d.subtree := by
  obtain ⟨fuel, room⟩ : ∃ k, d.size = k + 1 := ⟨d.size - 1, by have := forest.rooted; omega⟩
  have below : (d.children n).flatMap (d.subtreeFrom fuel) =
      (d.children n).flatMap d.subtree := by
    refine List.flatMap_congr fun c member => ?_
    have up := forest.later n c member
    exact forest.subtreeFrom_fuel (forest.child_lt member) (by omega) (by omega)
  rw [subtree, room, subtreeFrom, below]

/-! ## The tree below a node -/

theorem toMarkup_isSome_iff (forest : d.Forest) : (d.toMarkup n).isSome ↔ n < d.size := by
  rw [forest.toMarkup_eq, Option.isSome_map, content?_isSome_iff]

theorem toMarkup_eq_some (forest : d.Forest) (inside : n < d.size) :
    d.toMarkup n = some (d.shown n) := by
  obtain ⟨m, found⟩ := Option.isSome_iff_exists.1 (forest.toMarkup_isSome_iff.2 inside)
  rw [shown, found, Option.getD_some]

/-- Every child has a tree, so none is passed over. -/
theorem filterMap_children (forest : d.Forest) (n : Nat) :
    (d.children n).filterMap d.toMarkup = (d.children n).map d.shown := by
  rw [← List.filterMap_eq_map]
  refine List.filterMap_congr fun c member => ?_
  exact forest.toMarkup_eq_some (forest.child_lt member)

theorem shown_eq (forest : d.Forest) {content : NodeContent} (found : d.content? n = some content) :
    d.shown n = content.tree ((d.children n).map d.shown) := by
  rw [shown, forest.toMarkup_eq, found, forest.filterMap_children]
  rfl

/-! ## The nodes below a node -/

theorem mem_subtree_iff (forest : d.Forest) :
    x ∈ d.subtree n ↔ x = n ∨ ∃ c ∈ d.children n, x ∈ d.subtree c := by
  rw [forest.subtree_eq n, List.mem_cons, List.mem_flatMap]

theorem self_mem_subtree (forest : d.Forest) (n : Nat) : n ∈ d.subtree n :=
  forest.mem_subtree_iff.2 (Or.inl rfl)

/-- The subtree of a node is all that its children, and theirs in turn, lead to. -/
theorem mem_subtree_iff_reaches (forest : d.Forest) :
    x ∈ d.subtree n ↔ Relation.ReflTransGen (fun p c : Nat => c ∈ d.children p) n x := by
  constructor
  · induction n using forest.descent.induction with
    | _ n ih =>
        intro member
        rcases forest.mem_subtree_iff.1 member with rfl | ⟨c, child, below⟩
        · exact .refl
        · exact .head child (ih c child below)
  · intro reaches
    induction reaches using Relation.ReflTransGen.head_induction_on with
    | refl => exact forest.self_mem_subtree x
    | head child _ ih => exact forest.mem_subtree_iff.2 (Or.inr ⟨_, child, ih⟩)

theorem le_of_mem_subtree (forest : d.Forest) (member : x ∈ d.subtree n) : n ≤ x := by
  induction n using forest.descent.induction with
  | _ n ih =>
      rcases forest.mem_subtree_iff.1 member with rfl | ⟨c, child, below⟩
      · exact Nat.le_refl _
      · have up := forest.later n c child
        have low := ih c child below
        omega

theorem lt_of_mem_subtree (forest : d.Forest) (inside : n < d.size) (member : x ∈ d.subtree n) :
    x < d.size := by
  induction n using forest.descent.induction with
  | _ n ih =>
      rcases forest.mem_subtree_iff.1 member with rfl | ⟨c, child, below⟩
      · exact inside
      · exact ih c child (forest.child_lt child) below

/-- No node is below its child. -/
theorem not_mem_subtree_child (forest : d.Forest) (child : c ∈ d.children n) :
    n ∉ d.subtree c := fun member => by
  have up := forest.later n c child
  have low := forest.le_of_mem_subtree member
  omega

/-- With a node other than `n`, its parent is below `n` too. -/
theorem parent_mem_subtree (forest : d.Forest) (member : x ∈ d.subtree n) (ne : x ≠ n)
    (child : x ∈ d.children p) : p ∈ d.subtree n := by
  rcases Relation.ReflTransGen.cases_tail (forest.mem_subtree_iff_reaches.1 member) with
    same | ⟨q, reaches, child'⟩
  · exact absurd same.symm ne.symm
  · obtain rfl := forest.parent_unique child' child
    exact forest.mem_subtree_iff_reaches.2 reaches

/-- A node is below one child of a node only. -/
theorem child_unique (forest : d.Forest) {a b : Nat} (first : a ∈ d.children n)
    (second : b ∈ d.children n) (inFirst : x ∈ d.subtree a) (inSecond : x ∈ d.subtree b) :
    a = b := by
  have unique : Relator.RightUnique (Function.swap fun p c : Nat => c ∈ d.children p) :=
    fun _ _ _ up up' => forest.parent_unique up up'
  have ways := Relation.ReflTransGen.total_of_right_unique unique
    (forest.mem_subtree_iff_reaches.1 inFirst).swap (forest.mem_subtree_iff_reaches.1 inSecond).swap
  have outside : ∀ {a b : Nat}, a ∈ d.children n → b ∈ d.children n → b ∈ d.subtree a → a = b := by
    intro a b first second below
    by_contra ne
    exact forest.not_mem_subtree_child first
      (forest.parent_mem_subtree below (Ne.symm ne) second)
  rcases ways with up | up
  · exact (outside second first (forest.mem_subtree_iff_reaches.2
      (Relation.reflTransGen_swap.1 up))).symm
  · exact outside first second (forest.mem_subtree_iff_reaches.2 (Relation.reflTransGen_swap.1 up))

/-- **A walk visits no node twice.** -/
theorem nodup_subtree (forest : d.Forest) (n : Nat) : (d.subtree n).Nodup := by
  induction n using forest.descent.induction with
  | _ n ih =>
      rw [forest.subtree_eq]
      refine List.nodup_cons.2 ⟨fun member => ?_, List.nodup_flatMap.2 ⟨ih, ?_⟩⟩
      · obtain ⟨c, child, below⟩ := List.mem_flatMap.1 member
        exact forest.not_mem_subtree_child child below
      · refine (forest.distinct n).imp_of_mem fun {a b} first second ne x inFirst inSecond => ?_
        exact ne (forest.child_unique first second inFirst inSecond)

/-! ## Paths -/

theorem mem_subtree_iff_path (forest : d.Forest) :
    x ∈ d.subtree n ↔ ∃ path, d.nodeAt? n path = some x := by
  constructor
  · induction n using forest.descent.induction with
    | _ n ih =>
        intro member
        rcases forest.mem_subtree_iff.1 member with rfl | ⟨c, child, below⟩
        · exact ⟨[], rfl⟩
        · obtain ⟨path, found⟩ := ih c child below
          obtain ⟨i, place⟩ := List.mem_iff_getElem?.1 child
          exact ⟨i :: path, by rw [nodeAt?, place]; exact found⟩
  · rintro ⟨path, found⟩
    induction path generalizing n with
    | nil => cases found; exact forest.self_mem_subtree x
    | cons i path ih =>
        rw [nodeAt?] at found
        split at found
        · rename_i c place
          exact forest.mem_subtree_iff.2 (Or.inr ⟨c, List.mem_of_getElem? place, ih found⟩)
        · cases found

theorem path_unique (forest : d.Forest) {path other : List Nat} (first : d.nodeAt? n path = some x)
    (second : d.nodeAt? n other = some x) : path = other := by
  have leaves : ∀ {n i : Nat} {path : List Nat}, d.nodeAt? n (i :: path) = some x →
      ∃ c, (d.children n)[i]? = some c ∧ d.nodeAt? c path = some x ∧ x ≠ n := by
    intro n i path found
    rw [nodeAt?] at found
    split at found
    · rename_i c place
      have below := forest.mem_subtree_iff_path.2 ⟨path, found⟩
      refine ⟨c, place, found, fun same => ?_⟩
      exact forest.not_mem_subtree_child (List.mem_of_getElem? place) (same ▸ below)
    · cases found
  induction path generalizing n other with
  | nil =>
      cases other with
      | nil => rfl
      | cons j other =>
          obtain ⟨-, -, -, ne⟩ := leaves second
          exact absurd (Option.some.inj first).symm ne
  | cons i path ih =>
      obtain ⟨a, place, found, ne⟩ := leaves first
      cases other with
      | nil => exact absurd (Option.some.inj second).symm ne
      | cons j other =>
          obtain ⟨b, place', found', -⟩ := leaves second
          obtain rfl : a = b := forest.child_unique (List.mem_of_getElem? place)
            (List.mem_of_getElem? place') (forest.mem_subtree_iff_path.2 ⟨path, found⟩)
            (forest.mem_subtree_iff_path.2 ⟨other, found'⟩)
          have inside := (List.getElem?_eq_some_iff.1 place).1
          have same := (List.getElem?_inj inside (forest.distinct n)).1 (place.trans place'.symm)
          rw [same, ih found found']

end Forest

end Document

end ConsoleView
