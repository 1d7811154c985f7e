/-
# ConsoleView.Proofs.Document.Rendered -- the nodes that a tree shows

`toMarkup` and `subtree` walk the same document, but not the same way: the tree
of a text shows no children, while the walk goes on to them.  `rendered` lists
the nodes that stand in the tree of a node.  They are nodes of the subtree, in
its order, and all of them exactly if no text in it has children
(`Forest.rendered_eq_subtree_iff`).

Nothing keeps a call from giving a text children.  The new tree is then shown
nowhere, although it is in the subtree of its ancestors and can be activated
(`run_opened_rendered`).
-/
import ConsoleView.Proofs.Document.TreeEdit
import Mathlib.Data.List.Flatten

namespace ConsoleView.Document

set_option autoImplicit false

/-- The nodes at the places of the tree below a node, each before those inside it. -/
def rendered (d : Document) (n : Nat) : List Nat :=
  match d.toMarkup n with
  | some tree => tree.paths.filterMap (d.nodeAt? n)
  | none => []

namespace Forest

variable {d d' : Document} {n p x i k : Nat} {m : Markup}

/-! ## The places of a tree -/

theorem rendered_of_paths (forest : d.Forest) (inside : n < d.size) {nodes : List Nat}
    (places : (d.shown n).paths.map (d.nodeAt? n) = nodes.map some) : d.rendered n = nodes := by
  rw [rendered, forest.toMarkup_eq_some inside]
  calc (d.shown n).paths.filterMap (d.nodeAt? n)
      = ((d.shown n).paths.map (d.nodeAt? n)).filterMap id := by rw [List.filterMap_map]; rfl
    _ = nodes := by rw [places, List.filterMap_map]; exact List.filterMap_some

/-- The places inside the children from `i` on are those of the children. -/
theorem map_pathsFrom (children : List Nat) (rest : (d.children n).drop i = children)
    (places : ∀ c ∈ children, (d.shown c).paths.map (d.nodeAt? c) = (d.rendered c).map some) :
    (Markup.pathsFrom i (children.map d.shown)).map (d.nodeAt? n) =
      (children.flatMap d.rendered).map some := by
  induction children generalizing i with
  | nil => rfl
  | cons c children ih =>
      have place : (d.children n)[i]? = some c := by
        rw [← Nat.add_zero i, ← List.getElem?_drop, rest, List.getElem?_cons_zero]
      have tail : (d.children n).drop (i + 1) = children := by
        rw [← List.drop_drop, rest, List.drop_one, List.tail_cons]
      have into : d.nodeAt? n ∘ (i :: ·) = d.nodeAt? c := by
        funext path
        rw [Function.comp_apply, nodeAt?, place]
      rw [List.map_cons, Markup.pathsFrom, List.map_append, List.map_map, into,
        places c List.mem_cons_self, ih tail fun c' member => places c' (List.mem_cons_of_mem _ member),
        List.flatMap_cons, List.map_append]

/-- The places of a tree are its nodes: none is passed over. -/
theorem map_paths_shown (forest : d.Forest) (inside : n < d.size) :
    (d.shown n).paths.map (d.nodeAt? n) =
      (n :: if d.isText n then [] else (d.children n).flatMap d.rendered).map some := by
  induction n using forest.descent.induction with
  | _ n ih =>
      obtain ⟨content, found⟩ := Option.isSome_iff_exists.1 (content?_isSome_iff.2 inside)
      have below : ∀ c ∈ d.children n,
          (d.shown c).paths.map (d.nodeAt? c) = (d.rendered c).map some := by
        intro c child
        have places := ih c child (forest.child_lt child)
        rw [forest.rendered_of_paths (forest.child_lt child) places, places]
      rw [forest.shown_eq found]
      cases content with
      | text content => simp [isText, found, NodeContent.tree, Markup.paths, nodeAt?]
      | element tag attributes =>
          have places := map_pathsFrom (d.children n) List.drop_zero below
          simp [isText, found, NodeContent.tree, Markup.paths, nodeAt?, places]

/-- **The nodes a tree shows**: the tree of a text shows the text, the tree of an element what the
trees of its children show too. -/
theorem rendered_eq (forest : d.Forest) (inside : n < d.size) :
    d.rendered n = n :: if d.isText n then [] else (d.children n).flatMap d.rendered :=
  forest.rendered_of_paths inside (forest.map_paths_shown inside)

/-! ## Shown and walked -/

/-- What is shown is walked, in the same order. -/
theorem rendered_sublist (forest : d.Forest) (inside : n < d.size) :
    (d.rendered n).Sublist (d.subtree n) := by
  induction n using forest.descent.induction with
  | _ n ih =>
      rw [forest.rendered_eq inside, forest.subtree_eq]
      refine List.Sublist.cons_cons n ?_
      split
      · exact List.nil_sublist _
      · exact List.Sublist.flatMap_right _ fun c child => ih c child (forest.child_lt child)

/-- The parent of a node that is shown below another one is an element. -/
theorem isText_of_mem_rendered (forest : d.Forest) (inside : n < d.size)
    (member : x ∈ d.rendered n) (ne : x ≠ n) (child : x ∈ d.children p) : d.isText p = false := by
  induction n using forest.descent.induction with
  | _ n ih =>
      rw [forest.rendered_eq inside] at member
      rcases List.mem_cons.1 member with same | below
      · exact absurd same ne
      · split at below
        · cases below
        · rename_i notText
          obtain ⟨c, child', below⟩ := List.mem_flatMap.1 below
          by_cases first : x = c
          · subst first
            obtain rfl := forest.parent_unique child' child
            simpa using notText
          · exact ih c child' (forest.child_lt child') below first

/-- **All that is walked is shown exactly if no text on the way has children.** -/
theorem rendered_eq_subtree_iff (forest : d.Forest) (inside : n < d.size) :
    d.rendered n = d.subtree n ↔ ∀ x ∈ d.subtree n, d.isText x → d.children x = [] := by
  constructor
  · intro same x member isText
    refine List.eq_nil_iff_forall_not_mem.2 fun (c : Nat) child => ?_
    have below : c ∈ d.subtree n := forest.mem_subtree_iff_reaches.2
      ((forest.mem_subtree_iff_reaches.1 member).tail child)
    have ne : c ≠ n := fun e => by
      have up := forest.later x c child
      have low := forest.le_of_mem_subtree member
      omega
    have notText := forest.isText_of_mem_rendered inside (same ▸ below) ne child
    rw [notText] at isText
    cases isText
  · induction n using forest.descent.induction with
    | _ n ih =>
        intro bare
        have children : (d.children n).flatMap d.rendered = (d.children n).flatMap d.subtree := by
          refine List.flatMap_congr fun c child => ih c child (forest.child_lt child) fun x member => ?_
          exact bare x (forest.mem_subtree_iff.2 (Or.inr ⟨c, child, member⟩))
        rw [forest.rendered_eq inside, forest.subtree_eq n, children]
        split
        · rename_i isText
          rw [bare n (forest.self_mem_subtree n) isText, List.flatMap_nil]
        · rfl

theorem rendered_eq_subtree_all_iff (forest : d.Forest) :
    (∀ n < d.size, d.rendered n = d.subtree n) ↔ d.TextsBare := by
  constructor
  · intro same
    refine textsBare_iff_all.2 fun n inside => ?_
    exact (forest.rendered_eq_subtree_iff inside).1 (same n inside) n (forest.self_mem_subtree n)
  · exact fun bare n inside => (forest.rendered_eq_subtree_iff inside).2 fun x _ => bare x

/-! ## Trees put inside a text -/

/-- A tree that is only put in is below all that its target is below. -/
theorem mem_subtree_new (forest : d.Forest) (spliced : d.Spliced p m i 0 d')
    (below : p ∈ d.subtree x) : d.size ∈ d'.subtree x := by
  have kept : ∀ q c : Nat, c ∈ d.children q → c ∈ d'.children q := by
    intro q c child
    by_cases atTarget : q = p
    · subst atTarget
      exact (forest.mem_children_spliced spliced).2 (Or.inr ⟨child, by simp [cutOut_zero]⟩)
    · rwa [spliced.children q (lt_of_mem_children child) atTarget]
  have new : d.size ∈ d'.children p := (forest.mem_children_spliced spliced).2 (Or.inl rfl)
  exact (forest.spliced spliced).mem_subtree_iff_reaches.2
    ((Relation.ReflTransGen.mono kept _ _ (forest.mem_subtree_iff_reaches.1 below)).tail new)

theorem not_mem_rendered_new (forest : d.Forest) (spliced : d.Spliced p m i k d')
    (isText : d.isText p = true) (inside : x < d.size) : d.size ∉ d'.rendered x := by
  intro member
  have inside' : x < d'.size := by have := spliced.size; omega
  have new : d.size ∈ d'.children p := (forest.mem_children_spliced spliced).2 (Or.inl rfl)
  have notText := (forest.spliced spliced).isText_of_mem_rendered inside' member
    (Nat.ne_of_gt inside) new
  rw [isText_congr (spliced.content p spliced.target), isText] at notText
  cases notText

/-- An element shows what is appended to it as its last child. -/
theorem toMarkup_append_element (forest : d.Forest) (notText : d.isText p = false)
    (spliced : d.Spliced p m (d.children p).length 0 d') :
    d'.toMarkup p = (d.toMarkup p).bind fun tree => tree.editAt (· ++ [m]) [] := by
  have inside' : p < d'.size := by have := spliced.size; have := spliced.target; omega
  obtain ⟨tag, attributes, content⟩ := element_of_not_isText spliced.target notText
  rw [forest.toMarkup_eq_some spliced.target, (forest.spliced spliced).toMarkup_eq_some inside',
    forest.shown_target spliced content, forest.shown_eq content, ← List.length_map d.shown,
    splice_end]
  rfl

end Forest

/-- **What a document accepts it shows, except inside texts.**  What is walked from a node and what
its tree shows are the same nodes in the same order exactly if no text on the way has children, and
this holds of all nodes exactly as long as no call has given a text children.  Appending to a node
that is there always succeeds.  An element then shows the new tree as its last child; appended to a
text, it is walked from wherever the text is but shown from nowhere. -/
theorem run_opened_rendered (tag : String) (attributes : List String) (calls : List Call) :
    let start := opened tag attributes
    let d := start.run calls
    ((∀ n < d.size, d.rendered n = d.subtree n) ↔ ¬ start.Happened Call.AddsToText calls) ∧
    (∀ n < d.size, ∃ tree, d.toMarkup n = some tree ∧
      tree.paths.map (d.nodeAt? n) = (d.rendered n).map some ∧
      (d.rendered n).Sublist (d.subtree n) ∧
      (d.rendered n = d.subtree n ↔ ∀ x ∈ d.subtree n, d.isText x → d.children x = [])) ∧
    (∀ p < d.size, ∀ m, ∃ d', d.append p m = .ok (d', d.size) ∧
      (d.isText p = false →
        d'.toMarkup p = (d.toMarkup p).bind fun tree => tree.editAt (· ++ [m]) []) ∧
      (d.isText p = true → ∀ x < d.size, d'.toMarkup x = d.toMarkup x ∧
        (p ∈ d.subtree x → d.size ∈ d'.subtree x) ∧ d.size ∉ d'.rendered x)) := by
  intro start d
  have forest : d.Forest := forest_run_opened tag attributes calls
  refine ⟨?_, fun n inside => ?_, fun p inside m => ?_⟩
  · exact forest.rendered_eq_subtree_all_iff.trans (textsBare_run_iff tag attributes calls)
  · have places := forest.map_paths_shown inside
    rw [← forest.rendered_eq inside] at places
    exact ⟨d.shown n, forest.toMarkup_eq_some inside, places, forest.rendered_sublist inside,
      forest.rendered_eq_subtree_iff inside⟩
  · obtain ⟨d', done⟩ : ∃ d', d.append p m = .ok (d', d.size) :=
      ⟨_, by rw [append, if_pos inside]⟩
    have spliced := (spliced_append done).2
    refine ⟨d', done, fun notText => forest.toMarkup_append_element notText spliced,
      fun isText x known => ⟨?_, forest.mem_subtree_new spliced,
        forest.not_mem_rendered_new spliced isText known⟩⟩
    have known' : x < d'.size := by have := spliced.size; omega
    rw [(forest.spliced spliced).toMarkup_eq_some known', forest.toMarkup_eq_some known,
      forest.shown_unchanged spliced known fun _ => isText]

/-- An item put inside a text is accepted and activated, and the page does not show it. -/
theorem item_in_text_unshown :
    let d := (opened "body" []).run [.append 0 (.text "t")]
    let item := ((Element.named "li").withAttribute "tooltip" "T").toMarkup
    let d' := (Call.append 1 item).after d
    d.append 1 item = .ok (d', 2) ∧ d'.toMarkup 1 = some (.text "t") ∧
      d'.html 0 = "<body>t</body>" ∧ d'.rendered 1 = [1] ∧ d'.subtree 1 = [1, 2] ∧
      ((Call.compile 1 .empty).after d').bindings.map ActiveBinding.node = [2] := by
  intro d item d'
  exact ⟨by rfl, by decide +kernel, by decide +kernel, by decide +kernel, by decide +kernel,
    by decide +kernel⟩

end ConsoleView.Document
