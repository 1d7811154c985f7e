/-
# ConsoleView.Proofs.Document.Splice -- what an edit does to the nodes

Every edit of a document is one splice: a tree is laid out behind the nodes that
are there, and its root takes a place among the children of one node, in place
of `k` of them.  Appending and inserting take `k = 0`; replacing takes `k = 1`
and leaves the replaced node without a parent.  `Spliced` says all of it through
`content?`, `parent?` and `children`, so that nothing behind this module opens
an edit again.
-/
import ConsoleView.Proofs.Document.Layout

namespace ConsoleView

set_option autoImplicit false

/-! ## Lists -/

section Splice

variable {α β : Type} {i k : Nat} {x y : α} {xs : List α}

/-- Put `x` at place `i`, in place of the `k` items from there on. -/
def splice (i k : Nat) (x : α) (xs : List α) : List α := xs.take i ++ x :: xs.drop (i + k)

def cutOut (i k : Nat) (xs : List α) : List α := (xs.drop i).take k

theorem splice_end (x : α) (xs : List α) : splice xs.length 0 x xs = xs ++ [x] := by
  simp [splice]

theorem insertIdx_eq_splice (fits : i ≤ xs.length) : xs.insertIdx i x = splice i 0 x xs := by
  induction i generalizing xs with
  | zero => simp [splice]
  | succ i ih =>
      cases xs with
      | nil => cases fits
      | cons z xs =>
          have fits' : i ≤ xs.length := by simpa using fits
          simpa [splice] using ih fits'

theorem set_eq_splice (inside : i < xs.length) : xs.set i x = splice i 1 x xs := by
  rw [List.set_eq_take_append_cons_drop, if_pos inside, splice]

theorem splice_append (front back : List α) :
    splice front.length k x (front ++ back) = front ++ x :: back.drop k := by
  simp [splice]

theorem map_splice (f : α → β) : (splice i k x xs).map f = splice i k (f x) (xs.map f) := by
  simp [splice]

theorem cutOut_zero : cutOut i 0 xs = [] := by
  simp [cutOut]

/-- What a splice keeps and what it takes out are the list. -/
theorem take_cutOut_drop (i k : Nat) (xs : List α) :
    xs.take i ++ (cutOut i k xs ++ xs.drop (i + k)) = xs := by
  have rest : xs.drop (i + k) = (xs.drop i).drop k := by rw [List.drop_drop]
  rw [rest, cutOut, List.take_append_drop, List.take_append_drop]

theorem mem_of_mem_cutOut (member : y ∈ cutOut i k xs) : y ∈ xs :=
  List.mem_of_mem_drop (List.mem_of_mem_take member)

theorem mem_splice (distinct : xs.Nodup) :
    y ∈ splice i k x xs ↔ y = x ∨ y ∈ xs ∧ y ∉ cutOut i k xs := by
  have whole := take_cutOut_drop i k xs
  have split : y ∈ xs ↔ y ∈ xs.take i ∨ y ∈ cutOut i k xs ∨ y ∈ xs.drop (i + k) := by
    conv_lhs => rw [← whole]
    simp only [List.mem_append]
  rw [← whole] at distinct
  obtain ⟨-, inner, apart⟩ := List.nodup_append.1 distinct
  obtain ⟨-, -, apart'⟩ := List.nodup_append.1 inner
  have front : y ∈ xs.take i → y ∉ cutOut i k xs := fun a b =>
    apart y a y (List.mem_append_left _ b) rfl
  have back : y ∈ xs.drop (i + k) → y ∉ cutOut i k xs := fun a b => apart' y b y a rfl
  rw [split, splice, List.mem_append, List.mem_cons]
  tauto

theorem cutOut_one (item : xs[i]? = some y) : cutOut i 1 xs = [y] := by
  obtain ⟨inside, rfl⟩ := List.getElem?_eq_some_iff.1 item
  rw [cutOut, List.drop_eq_getElem_cons inside, List.take_succ_cons, List.take_zero]

theorem nodup_splice (distinct : xs.Nodup) (fresh : x ∉ xs) : (splice i k x xs).Nodup := by
  have parts : (xs.take i ++ xs.drop (i + k)).Sublist xs := by
    conv_rhs => rw [← take_cutOut_drop i k xs]
    exact (List.Sublist.refl _).append (List.sublist_append_right _ _)
  refine List.nodup_middle.2 (List.nodup_cons.2 ⟨fun member => ?_, distinct.sublist parts⟩)
  exact fresh (parts.subset member)

/-- Inserting before an item and then taking the item out is replacing it. -/
theorem filter_splice [DecidableEq α] (distinct : xs.Nodup) (item : xs[i]? = some y)
    (other : x ≠ y) : (splice i 0 x xs).filter (· ≠ y) = splice i 1 x xs := by
  obtain ⟨inside, same⟩ := List.getElem?_eq_some_iff.1 item
  have rest : xs.drop i = y :: xs.drop (i + 1) := by rw [List.drop_eq_getElem_cons inside, same]
  have whole : xs = xs.take i ++ y :: xs.drop (i + 1) := by rw [← rest, List.take_append_drop]
  rw [whole] at distinct
  obtain ⟨absent, -⟩ := List.nodup_cons.1 (List.nodup_middle.1 distinct)
  rw [List.mem_append, not_or] at absent
  have kept : ∀ zs : List α, y ∉ zs → zs.filter (· ≠ y) = zs := fun zs fresh =>
    List.filter_eq_self.2 fun z member => decide_eq_true fun e => fresh (e ▸ member)
  rw [splice, splice, Nat.add_zero, rest, List.filter_append, kept _ absent.1,
    List.filter_cons_of_pos (by simpa using other), List.filter_cons_of_neg (by simp),
    kept _ absent.2]

end Splice

namespace Document

/-- Inserting before an item is splicing at the item's place. -/
theorem insertBeforeIn_append {new r : Nat} {front : List Nat} (back : List Nat)
    (first : r ∉ front) : insertBeforeIn new r (front ++ r :: back) = front ++ new :: r :: back := by
  induction front with
  | nil => simp [insertBeforeIn]
  | cons x front ih =>
      have ne : x ≠ r := fun e => first (e ▸ List.mem_cons_self)
      have rest : r ∉ front := fun member => first (List.mem_cons_of_mem _ member)
      simp only [List.cons_append, insertBeforeIn, if_neg ne, ih rest]

/-! ## The parts of an edit -/

section Parts

variable {d : Document} {n p x : Nat} {m : Markup} {change : List Nat → List Nat}

theorem node_layOut_of_lt (inside : x < d.size) : (d.layOut p m).nodes[x]? = d.nodes[x]? := by
  rw [layOut, Array.getElem?_append_left inside]

theorem holds_layOut : (d.layOut p m).Holds d.size (m.layout p d.size) := by
  refine holds_of_getElem? fun i inside => ?_
  rw [layOut, size, Array.getElem?_append_right (Nat.le_add_right _ _), Nat.add_sub_cancel_left,
    List.getElem?_toArray]

theorem node_relink_of_ne (ne : x ≠ n) : (d.relink n change).nodes[x]? = d.nodes[x]? := by
  rw [relink, Array.getElem?_modify, if_neg (Ne.symm ne)]

theorem content?_relink : (d.relink n change).content? x = d.content? x := by
  by_cases same : n = x
  · cases h : d.nodes[x]? <;> simp [content?, relink, Array.getElem?_modify, same, h]
  · rw [content?, node_relink_of_ne (Ne.symm same), content?]

theorem parent?_relink : (d.relink n change).parent? x = d.parent? x := by
  by_cases same : n = x
  · cases h : d.nodes[x]? <;> simp [parent?, relink, Array.getElem?_modify, same, h]
  · rw [parent?, node_relink_of_ne (Ne.symm same), parent?]

theorem children_relink_of_ne (ne : x ≠ n) : (d.relink n change).children x = d.children x := by
  rw [children, node_relink_of_ne ne, children]

theorem children_relink_self (inside : n < d.size) :
    (d.relink n change).children n = change (d.children n) := by
  obtain ⟨node, found⟩ := node_of_lt inside
  simp [children, relink, Array.getElem?_modify, found]

theorem node_orphan_of_ne (ne : x ≠ n) : (d.orphan n).nodes[x]? = d.nodes[x]? := by
  rw [orphan, Array.getElem?_modify, if_neg (Ne.symm ne)]

theorem content?_orphan : (d.orphan n).content? x = d.content? x := by
  by_cases same : n = x
  · cases h : d.nodes[x]? <;> simp [content?, orphan, Array.getElem?_modify, same, h]
  · rw [content?, node_orphan_of_ne (Ne.symm same), content?]

theorem children_orphan : (d.orphan n).children x = d.children x := by
  by_cases same : n = x
  · cases h : d.nodes[x]? <;> simp [children, orphan, Array.getElem?_modify, same, h]
  · rw [children, node_orphan_of_ne (Ne.symm same), children]

theorem parent?_orphan : (d.orphan n).parent? x = if x = n then none else d.parent? x := by
  by_cases same : n = x
  · cases h : d.nodes[x]? <;> simp [parent?, orphan, Array.getElem?_modify, same, h]
  · rw [parent?, node_orphan_of_ne (Ne.symm same), if_neg (Ne.symm same), parent?]

/-- A block stands in every document that has the same nodes there. -/
theorem holds_congr {d' : Document} {start : Nat} {nodes : List Node}
    (same : ∀ x, start ≤ x → d'.nodes[x]? = d.nodes[x]?) (held : d.Holds start nodes) :
    d'.Holds start nodes := by
  induction nodes generalizing start with
  | nil => trivial
  | cons node rest ih =>
      exact ⟨(same start (Nat.le_refl _)).trans held.1, ih (fun x low => same x (by omega)) held.2⟩

end Parts

/-! ## One splice -/

/-- Markup `m` has come into the document: behind the old nodes, its root at place `i` among the
children of `p`, in place of `k` of them, which have lost their parent. -/
structure Spliced (d : Document) (p : Nat) (m : Markup) (i k : Nat) (d' : Document) : Prop where
  target : p < d.size
  fits : i + k ≤ (d.children p).length
  size : d'.size = d.size + m.nodeCount
  content : ∀ x < d.size, d'.content? x = d.content? x
  parent : ∀ x < d.size,
    d'.parent? x = if x ∈ cutOut i k (d.children p) then none else d.parent? x
  children : ∀ x < d.size, x ≠ p → d'.children x = d.children x
  spliced : d'.children p = splice i k d.size (d.children p)
  held : d'.Holds d.size (m.layout p d.size)
  bindings : d'.bindings = d.bindings
  bindingAttributes : d'.bindingAttributes = d.bindingAttributes

section Edits

variable {d d' : Document} {p n id : Nat} {m : Markup}

theorem spliced_relink (change : List Nat → List Nat) {i : Nat} (inside : p < d.size)
    (fits : i ≤ (d.children p).length)
    (place : change (d.children p) = splice i 0 d.size (d.children p)) :
    d.Spliced p m i 0 ((d.layOut p m).relink p change) where
  target := inside
  fits := fits
  size := by rw [size_relink, size_layOut]
  content := fun x old => by rw [content?_relink, content?, node_layOut_of_lt old, content?]
  parent := fun x old => by
    rw [parent?_relink, parent?, node_layOut_of_lt old, parent?, if_neg (by simp [cutOut])]
  children := fun x old ne => by
    rw [children_relink_of_ne ne, Document.children, node_layOut_of_lt old, Document.children]
  spliced := by
    have same : (d.layOut p m).children p = d.children p := by
      rw [Document.children, node_layOut_of_lt inside, Document.children]
    rw [children_relink_self (by rw [size_layOut]; omega), same, place]
  held := holds_congr (fun x later => node_relink_of_ne (by omega)) holds_layOut
  bindings := rfl
  bindingAttributes := rfl

/-- Putting a tree last among the children of a node. -/
theorem spliced_adopt (inside : p < d.size) :
    d.Spliced p m (d.children p).length 0 (d.adopt p m) :=
  spliced_relink (· ++ [d.size]) inside (Nat.le_refl _) (splice_end _ _).symm

theorem spliced_append (done : d.append p m = .ok (d', id)) :
    id = d.size ∧ d.Spliced p m (d.children p).length 0 d' := by
  unfold append at done
  split at done
  · rename_i inside
    cases done
    exact ⟨rfl, spliced_adopt inside⟩
  · cases done

theorem spliced_insertBefore {r : Nat} (done : d.insertBefore p m r = .ok (d', id)) :
    id = d.size ∧ ∃ i, (d.children p)[i]? = some r ∧ d.Spliced p m i 0 d' := by
  unfold insertBefore at done
  split at done
  · rename_i inside
    split at done
    · rename_i member
      cases done
      obtain ⟨front, back, whole, first⟩ := List.eq_append_cons_of_mem member
      refine ⟨rfl, front.length, by rw [whole]; simp, spliced_relink _ inside ?_ ?_⟩
      · rw [whole]; simp
      · rw [whole, insertBeforeIn_append back first, splice_append, List.drop_zero]
    · cases done
  · cases done

/-- Replacing is inserting before a node and then taking the node out. -/
theorem Spliced.cut {i : Nat} (inserted : d.Spliced p m i 0 d')
    (distinct : (d.children p).Nodup) (inside : n < d.size) (item : (d.children p)[i]? = some n) :
    d.Spliced p m i 1 ((d'.relink p (·.filter (· ≠ n))).orphan n) where
  target := inserted.target
  fits := (List.getElem?_eq_some_iff.1 item).1
  size := by rw [size_orphan, size_relink, inserted.size]
  content := fun x old => by rw [content?_orphan, content?_relink, inserted.content x old]
  parent := fun x old => by
    simp only [parent?_orphan, parent?_relink, inserted.parent x old, cutOut_zero, cutOut_one item,
      List.not_mem_nil, List.mem_singleton, if_false]
  children := fun x old ne => by
    rw [children_orphan, children_relink_of_ne ne, inserted.children x old ne]
  spliced := by
    have room : p < d'.size := by have := inserted.size; have := inserted.target; omega
    rw [children_orphan, children_relink_self room, inserted.spliced]
    exact filter_splice distinct item (Nat.ne_of_gt inside)
  held := by
    have := inserted.target
    refine holds_congr (fun x later => ?_) inserted.held
    rw [node_orphan_of_ne (by omega), node_relink_of_ne (by omega)]
  bindings := inserted.bindings
  bindingAttributes := inserted.bindingAttributes

end Edits

end Document

end ConsoleView
