/-
# ConsoleView.Proofs.Document.TreeEdit -- edits of a document as edits of trees

Seen through `toMarkup`, a document is a family of trees, one from each node.  A
splice under `p` changes each of them at the one place where `p` stands, and
leaves the trees in which `p` does not stand as they are (`Forest.editedAt`).
A new tree reads back as the markup it was laid out from (`markupFrom_layout`).

Only elements show their children, so all of it needs that texts have none.
-/
import ConsoleView.Proofs.Document.Reachable
import ConsoleView.Proofs.Markup.Path

namespace ConsoleView

set_option autoImplicit false

namespace Document

/-! ## Reading a laid out tree -/

mutual

theorem markupFrom_layout (d : Document) (owner start : Nat) (m : Markup) {fuel : Nat}
    (held : d.Holds start (m.layout owner start)) (enough : m.nodeCount ≤ fuel) :
    d.markupFrom fuel start = some m := by
  obtain ⟨fuel, rfl⟩ : ∃ k, fuel = k + 1 := ⟨fuel - 1, by have := nodeCount_pos m; omega⟩
  match m with
  | .text content =>
      obtain ⟨node, -⟩ := held
      rw [markupFrom_succ, content?_of_node node]
      rfl
  | .element tag attributes children =>
      obtain ⟨node, rest⟩ := held
      rw [Markup.nodeCount] at enough
      have below : (Markup.rootsFrom (start + 1) children).filterMap (d.markupFrom fuel) = children :=
        filterMap_layoutAll d start (start + 1) children rest (by omega)
      rw [markupFrom_succ, content?_of_node node, children_of_node node, Option.map_some, below,
        NodeContent.tree]

theorem filterMap_layoutAll (d : Document) (owner start : Nat) (ms : List Markup) {fuel : Nat}
    (held : d.Holds start (Markup.layoutAll owner start ms))
    (enough : Markup.nodeCountOfAll ms ≤ fuel) :
    (Markup.rootsFrom start ms).filterMap (d.markupFrom fuel) = ms := by
  match ms with
  | [] => rfl
  | m :: rest =>
      obtain ⟨front, back⟩ := holds_append.1 held
      rw [Markup.length_layout] at back
      rw [Markup.nodeCountOfAll] at enough
      rw [Markup.rootsFrom, List.filterMap_cons_some
          (markupFrom_layout d owner start m front (by omega)),
        filterMap_layoutAll d owner (start + m.nodeCount) rest back (by omega)]

end

namespace Forest

variable {d d' : Document} {p n c x i k : Nat} {m : Markup}

/-! ## Trees after a splice -/

/-- The new tree is the markup that was put in. -/
theorem shown_new (spliced : d.Spliced p m i k d') : d'.shown d.size = m := by
  have enough : m.nodeCount ≤ d'.size := by rw [spliced.size]; omega
  rw [shown, toMarkup, markupFrom_layout d' p d.size m spliced.held enough, Option.getD_some]

/-- A tree is as it was unless the target stands in it and shows its children. -/
theorem shown_unchanged (forest : d.Forest) (spliced : d.Spliced p m i k d') (inside : x < d.size)
    (unseen : p ∈ d.subtree x → d.isText p) : d'.shown x = d.shown x := by
  induction x using forest.descent.induction with
  | _ x ih =>
      obtain ⟨content, found⟩ := Option.isSome_iff_exists.1 (content?_isSome_iff.2 inside)
      have found' : d'.content? x = some content := by rw [spliced.content x inside, found]
      rw [(forest.spliced spliced).shown_eq found', forest.shown_eq found]
      by_cases atTarget : x = p
      · subst atTarget
        have isText := unseen (forest.self_mem_subtree x)
        cases content with
        | text content => rfl
        | element tag attributes => simp [Document.isText, found] at isText
      · have below : (d.children x).map d'.shown = (d.children x).map d.shown := by
          refine List.map_congr_left fun c child => ih c child (forest.child_lt child) ?_
          exact fun member => unseen (forest.mem_subtree_iff.2 (Or.inr ⟨c, child, member⟩))
        rw [spliced.children x inside atTarget, below]

theorem shown_of_not_mem (forest : d.Forest) (spliced : d.Spliced p m i k d') (inside : x < d.size)
    (outside : p ∉ d.subtree x) : d'.shown x = d.shown x :=
  forest.shown_unchanged spliced inside fun member => absurd member outside

/-- The target's own tree has the new tree among its children. -/
theorem shown_target (forest : d.Forest) (spliced : d.Spliced p m i k d') {content : NodeContent}
    (found : d.content? p = some content) :
    d'.shown p = content.tree (splice i k m ((d.children p).map d.shown)) := by
  have found' : d'.content? p = some content := by rw [spliced.content p spliced.target, found]
  have below : (d.children p).map d'.shown = (d.children p).map d.shown :=
    List.map_congr_left fun c child =>
      forest.shown_of_not_mem spliced (forest.child_lt child) (forest.not_mem_subtree_child child)
  rw [(forest.spliced spliced).shown_eq found', spliced.spliced, map_splice, shown_new spliced,
    below]

/-- Of the trees below the children of a node, only the one that holds the target changes. -/
theorem map_shown_spliced (forest : d.Forest) (spliced : d.Spliced p m i k d') {j : Nat}
    (place : (d.children x)[j]? = some c) (below : p ∈ d.subtree c) :
    (d.children x).map d'.shown = ((d.children x).map d.shown).set j (d'.shown c) := by
  obtain ⟨inside, rfl⟩ := List.getElem?_eq_some_iff.1 place
  refine List.ext_getElem (by simp) fun l low _ => ?_
  rw [List.getElem_map, List.getElem_set, List.getElem_map]
  split
  · rename_i same
    subst same
    rfl
  · rename_i ne
    rw [List.length_map] at low
    have child : (d.children x)[l] ∈ d.children x := List.getElem_mem low
    refine forest.shown_of_not_mem spliced (forest.child_lt child) fun member => ne ?_
    have same := forest.child_unique (List.getElem_mem inside) child below member
    exact ((forest.distinct x).getElem_inj_iff).1 same

/-! ## Paths in trees -/

/-- A node that has children is an element. -/
theorem element_of_child (bare : d.TextsBare) (child : c ∈ d.children n) :
    ∃ tag attributes, d.content? n = some (.element tag attributes) := by
  refine element_of_not_isText (lt_of_mem_children child) ?_
  by_contra isText
  rw [bare n (by simpa using isText)] at child
  cases child

/-- A path leads to the same place among the nodes and in the tree. -/
theorem at?_shown (forest : d.Forest) (bare : d.TextsBare) {path : List Nat}
    (found : d.nodeAt? n path = some x) : (d.shown n).at? path = some (d.shown x) := by
  induction path generalizing n with
  | nil =>
      cases found
      rw [Markup.at?]
  | cons j path ih =>
      rw [nodeAt?] at found
      split at found
      · rename_i c place
        obtain ⟨tag, attributes, content⟩ :=
          element_of_child bare (List.mem_of_getElem? place)
        have place' : ((d.children n).map d.shown)[j]? = some (d.shown c) := by
          rw [List.getElem?_map, place, Option.map_some]
        rw [forest.shown_eq content, NodeContent.tree, Markup.at?_cons place']
        exact ih found
      · cases found

/-- A splice edits the trees above its target at the target's path. -/
theorem editAt_shown (forest : d.Forest) (bare : d.TextsBare) (spliced : d.Spliced p m i k d')
    (notText : d.isText p = false) {change : List Markup → List Markup}
    (place : change ((d.children p).map d.shown) = splice i k m ((d.children p).map d.shown))
    {path : List Nat} (found : d.nodeAt? x path = some p) :
    (d.shown x).editAt change path = some (d'.shown x) := by
  induction path generalizing x with
  | nil =>
      cases found
      obtain ⟨tag, attributes, content⟩ := element_of_not_isText spliced.target notText
      rw [forest.shown_eq content, NodeContent.tree, Markup.editAt, place,
        forest.shown_target spliced content, NodeContent.tree]
  | cons j path ih =>
      rw [nodeAt?] at found
      split at found
      · rename_i c childPlace
        have child := List.mem_of_getElem? childPlace
        have below : p ∈ d.subtree c := forest.mem_subtree_iff_path.2 ⟨path, found⟩
        have ne : x ≠ p := fun e => forest.not_mem_subtree_child child (e ▸ below)
        have inside : x < d.size := lt_of_mem_children child
        obtain ⟨tag, attributes, content⟩ := element_of_child bare child
        have content' : d'.content? x = some (.element tag attributes) := by
          rw [spliced.content x inside, content]
        have childPlace' : ((d.children x).map d.shown)[j]? = some (d.shown c) := by
          rw [List.getElem?_map, childPlace, Option.map_some]
        rw [forest.shown_eq content, NodeContent.tree, Markup.editAt_cons childPlace' (ih found),
          (forest.spliced spliced).shown_eq content', NodeContent.tree, spliced.children x inside ne,
          forest.map_shown_spliced spliced childPlace below]
      · cases found

end Forest

/-! ## Edits of all trees -/

/-- From each node that was there, the tree has changed at the one place where `p` stands in it, by
a change of the children of `p`; where `p` does not stand in it, it is as it was. -/
def EditedAt (d d' : Document) (p : Nat) (change : List Markup → List Markup) : Prop :=
  ∀ x < d.size,
    (p ∈ d.subtree x → ∃ path tree edited,
      (∀ other, d.nodeAt? x other = some p ↔ other = path) ∧
      d.toMarkup x = some tree ∧ tree.at? path = d.toMarkup p ∧
      d'.toMarkup x = some edited ∧ tree.editAt change path = some edited) ∧
    (p ∉ d.subtree x → d'.toMarkup x = d.toMarkup x)

/-- **A splice is one edit of every tree.** -/
theorem Forest.editedAt {d d' : Document} {p i k : Nat} {m : Markup} (forest : d.Forest)
    (bare : d.TextsBare) (spliced : d.Spliced p m i k d') (notText : d.isText p = false)
    {change : List Markup → List Markup}
    (place : change ((d.children p).map d.shown) = splice i k m ((d.children p).map d.shown)) :
    d.EditedAt d' p change := by
  intro x inside
  have inside' : x < d'.size := by have := spliced.size; omega
  rw [forest.toMarkup_eq_some inside, (forest.spliced spliced).toMarkup_eq_some inside',
    forest.toMarkup_eq_some spliced.target]
  constructor
  · intro member
    obtain ⟨path, found⟩ := forest.mem_subtree_iff_path.1 member
    refine ⟨path, _, _, fun other => ⟨fun found' => ?_, ?_⟩, rfl, forest.at?_shown bare found, rfl,
      forest.editAt_shown bare spliced notText place found⟩
    · exact forest.path_unique found' found
    · rintro rfl
      exact found
  · intro outside
    rw [forest.shown_of_not_mem spliced inside outside]

/-- The tree of `m` stands last inside `p`, wherever `p` stands. -/
def Appended (d d' : Document) (p : Nat) (m : Markup) : Prop := d.EditedAt d' p (· ++ [m])

/-- The tree of `m` stands inside `p` immediately before `r`, wherever `p` stands. -/
def Inserted (d d' : Document) (p : Nat) (m : Markup) (r : Nat) : Prop :=
  ∃ i, (d.children p)[i]? = some r ∧ d.EditedAt d' p (·.insertIdx i m)

/-- The tree of `m` stands where `n` stood inside its parent; the tree of `n` is as it was. -/
def Replaced (d d' : Document) (n : Nat) (m : Markup) : Prop :=
  ∃ p i, (d.children p)[i]? = some n ∧ d.EditedAt d' p (·.set i m) ∧
    d'.toMarkup n = d.toMarkup n

namespace Forest

variable {d d' : Document} {p n i : Nat} {m : Markup}

theorem appended (forest : d.Forest) (bare : d.TextsBare) (notText : d.isText p = false)
    (spliced : d.Spliced p m (d.children p).length 0 d') : d.Appended d' p m := by
  refine forest.editedAt bare spliced notText ?_
  rw [← List.length_map d.shown, splice_end]

theorem inserted (forest : d.Forest) (bare : d.TextsBare) (notText : d.isText p = false) {r : Nat}
    (item : (d.children p)[i]? = some r) (spliced : d.Spliced p m i 0 d') :
    d.Inserted d' p m r := by
  refine ⟨i, item, forest.editedAt bare spliced notText ?_⟩
  rw [insertIdx_eq_splice (by rw [List.length_map]; exact spliced.fits)]

/-- A node that is replaced keeps its own tree: its parent does not stand in it. -/
theorem replaced (forest : d.Forest) (bare : d.TextsBare) (notText : d.isText p = false)
    (item : (d.children p)[i]? = some n) (spliced : d.Spliced p m i 1 d') :
    d.Replaced d' n m := by
  have child := List.mem_of_getElem? item
  have edited : d.EditedAt d' p (·.set i m) := by
    refine forest.editedAt bare spliced notText ?_
    rw [set_eq_splice (by rw [List.length_map]; exact spliced.fits)]
  exact ⟨p, i, item, edited,
    (edited n (forest.child_lt child)).2 (forest.not_mem_subtree_child child)⟩

end Forest

end Document

/-! ## Calls -/

/-- What a successful call does to the trees of a document. -/
def Call.EditsTrees (d d' : Document) : Call → Prop
  | createAnchor tag => d.Appended d' Document.root (Element.named tag).toMarkup
  | append parent m => d.Appended d' parent m
  | insertBefore parent m reference => d.Inserted d' parent m reference
  | replaceWith n m => d.Replaced d' n m
  | mount anchor descriptor m =>
      if descriptor.replaces then d.Replaced d' anchor m else d.Appended d' anchor m
  | compile _ _ => ∀ x, d'.toMarkup x = d.toMarkup x

theorem Document.Forest.editsTrees {d d' : Document} {c : Call} {result : Nat} (forest : d.Forest)
    (bare : d.TextsBare) (toElement : ∀ p, c.target? d = some p → d.isText p = false)
    (done : c.perform d = .ok (d', result)) : c.EditsTrees d d' := by
  have replacing : ∀ {n m}, (d.parent? n = c.target? d) → d.replaceWith n m = .ok (d', result) →
      d.Replaced d' n m := by
    intro n m target done
    obtain ⟨-, p, i, item, spliced⟩ := forest.spliced_replaceWith done
    have parent := forest.parent p n (List.mem_of_getElem? item)
    exact forest.replaced bare (toElement p (target.symm.trans parent)) item spliced
  cases c with
  | createAnchor tag =>
      cases done
      exact forest.appended bare (toElement _ rfl) (spliced_adopt forest.rooted)
  | append parent m => exact forest.appended bare (toElement _ rfl) (spliced_append done).2
  | insertBefore parent m reference =>
      obtain ⟨-, i, item, spliced⟩ := spliced_insertBefore done
      exact forest.inserted bare (toElement _ rfl) item spliced
  | replaceWith n m => exact replacing rfl done
  | mount anchor descriptor m =>
      simp only [Call.perform, mountMarkup] at done
      simp only [Call.target?] at toElement replacing
      rw [Call.EditsTrees]
      split at done
      · rename_i replaces
        rw [if_pos replaces] at replacing ⊢
        exact replacing rfl done
      · rename_i fills
        rw [if_neg fills] at toElement ⊢
        exact forest.appended bare (toElement _ rfl) (spliced_append done).2
  | compile n scope => exact toMarkup_congr (nodes_compile done)

/-- **A document is a tree editor.**  As long as no call gives a text children, every successful
call is one edit of the trees that `toMarkup` shows, at the one place in each where the edited
children are shown. -/
theorem run_edits_trees (tag : String) (attributes : List String) (calls : List Call) (c : Call)
    (toElements : ¬ (Document.opened tag attributes).Happened Call.AddsToText (calls ++ [c]))
    {d' : Document} {result : Nat}
    (done : c.perform ((Document.opened tag attributes).run calls) = .ok (d', result)) :
    c.EditsTrees ((Document.opened tag attributes).run calls) d' := by
  rw [Document.happened_concat, not_or] at toElements
  have bare := (Document.textsBare_run_iff tag attributes calls).2 toElements.1
  refine (Document.forest_run_opened tag attributes calls).editsTrees bare (fun p target => ?_) done
  by_contra isText
  exact toElements.2 ⟨⟨d', result, done⟩, p, target, by simpa using isText⟩

/-- An item is put before the only item of a list that is no longer part of the page. -/
theorem edits_trees_of_detached_list :
    let calls : List Call := [.createAnchor "ul",
      .append 1 ((Element.named "li").withText "b").toMarkup, .replaceWith 1 (.text "gone")]
    let d := (Document.opened "body" []).run calls
    let c : Call := .insertBefore 1 (.text "a") 2
    ¬ (Document.opened "body" []).Happened Call.AddsToText (calls ++ [c]) ∧
      c.perform d = .ok (c.after d, 5) ∧ c.EditsTrees d (c.after d) := by
  intro calls d c
  have toElements := (Document.textsBare_run_iff "body" [] (calls ++ [c])).1 (by decide +kernel)
  have done : c.perform d = .ok (c.after d, 5) := by rfl
  exact ⟨toElements, done, run_edits_trees "body" [] calls c toElements done⟩

end ConsoleView
