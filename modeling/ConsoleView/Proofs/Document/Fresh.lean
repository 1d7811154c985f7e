/-
# ConsoleView.Proofs.Document.Fresh -- new subtrees and those an edit does not reach

A splice under `p` leaves the walk of every node whose subtree `p` is not in as
it was (`Forest.subtree_of_not_mem`), and what is declarative in it
(`Forest.walk_of_not_mem`).  The walk of the new tree finds what is declarative
in the markup (`Forest.walk_new`).  None of that is live yet: every live binding
is on a node that was there before (`Reachable.node_lt`), so compiling the new
tree activates all of it (`Forest.dormant_fresh`).
-/
import ConsoleView.Proofs.Document.TreeEdit
import ConsoleView.Proofs.Markup.Bindings

namespace ConsoleView.Document

set_option autoImplicit false

/-! ## Reachable documents -/

def Reachable (d : Document) : Prop := ∃ tag attributes calls, d = (opened tag attributes).run calls

theorem reachable_run_opened (tag : String) (attributes : List String) (calls : List Call) :
    ((opened tag attributes).run calls).Reachable :=
  ⟨tag, attributes, calls, rfl⟩

theorem mem_bindingAttributes_opened {tag name : String} {attributes : List String} :
    name ∈ (opened tag attributes).bindingAttributes ↔ name ∈ attributes ∨ name = "tooltip" := by
  suffices grown : ∀ d : Document,
      name ∈ (attributes.foldl withBindingAttribute d).bindingAttributes ↔
        name ∈ attributes ∨ name ∈ d.bindingAttributes by
    rw [opened, grown]
    simp [withRoot, defaultBindingAttributes]
  induction attributes with
  | nil => simp
  | cons other rest ih =>
      intro d
      have added : name ∈ (d.withBindingAttribute other).bindingAttributes ↔
          name = other ∨ name ∈ d.bindingAttributes := List.mem_cons
      rw [List.foldl_cons, ih, added, List.mem_cons]
      tauto

namespace Reachable

variable {d : Document}

theorem run (reachable : d.Reachable) (calls : List Call) : (d.run calls).Reachable := by
  obtain ⟨tag, attributes, before, rfl⟩ := reachable
  exact ⟨tag, attributes, before ++ calls, (run_append _ _ _).symm⟩

theorem forest (reachable : d.Reachable) : d.Forest := by
  obtain ⟨tag, attributes, calls, rfl⟩ := reachable
  exact forest_run_opened tag attributes calls

/-- Every live binding is on a node that is there. -/
theorem node_lt (reachable : d.Reachable) : ∀ b ∈ d.bindings, b.node < d.size := by
  obtain ⟨tag, attributes, calls, rfl⟩ := reachable
  intro b member
  exact ((Forest.opened tag attributes).carried_run (bindings_opened tag attributes) calls b
    member).lt

end Reachable

section Splices

variable {d d' : Document} {p x i k : Nat} {m : Markup}

/-! ## Subtrees that an edit does not reach -/

/-- A walk is as it was unless the target is on it. -/
theorem Forest.subtree_of_not_mem (forest : d.Forest) (spliced : d.Spliced p m i k d')
    (inside : x < d.size) (outside : p ∉ d.subtree x) : d'.subtree x = d.subtree x := by
  induction x using forest.descent.induction with
  | _ x ih =>
      have ne : x ≠ p := fun same => outside (same ▸ forest.self_mem_subtree x)
      rw [(forest.spliced spliced).subtree_eq, forest.subtree_eq, spliced.children x inside ne]
      congr 1
      refine List.flatMap_congr fun c child => ih c child (forest.child_lt child) fun member => ?_
      exact outside (forest.mem_subtree_iff.2 (Or.inr ⟨c, child, member⟩))

theorem bindingsOf_congr {n : Nat} (content : d'.content? n = d.content? n)
    (attributes : d'.bindingAttributes = d.bindingAttributes) (scope : Scope) :
    d'.bindingsOf scope n = d.bindingsOf scope n := by
  rw [bindingsOf_eq, bindingsOf_eq, attributes, attributePairs_congr content]

theorem Forest.walk_of_not_mem (forest : d.Forest) (spliced : d.Spliced p m i k d')
    (inside : x < d.size) (outside : p ∉ d.subtree x) (scope : Scope) :
    (d'.subtree x).flatMap (d'.bindingsOf scope) = (d.subtree x).flatMap (d.bindingsOf scope) := by
  rw [forest.subtree_of_not_mem spliced inside outside]
  refine List.flatMap_congr fun y below => ?_
  exact bindingsOf_congr (spliced.content y (forest.lt_of_mem_subtree inside below))
    spliced.bindingAttributes scope

/-! ## The new subtree -/

theorem walk_new (spliced : d.Spliced p m i k d') (scope : Scope) :
    (d'.subtree d.size).flatMap (d'.bindingsOf scope) =
      m.bindingsFrom d.bindingAttributes scope d.size := by
  have enough : m.nodeCount ≤ d'.size := by rw [spliced.size]; omega
  rw [subtree, walk_layout d' scope p d.size m spliced.held enough, spliced.bindingAttributes]

end Splices

/-- In a subtree behind all live bindings, everything declarative is dormant. -/
theorem Forest.dormant_fresh {d : Document} {n : Nat} (forest : d.Forest)
    (behind : ∀ b ∈ d.bindings, b.node < n) (scope : Scope) :
    d.dormant n scope = (d.subtree n).flatMap (d.bindingsOf scope) := by
  refine List.filter_eq_self.2 fun b member => ?_
  obtain ⟨x, below, made⟩ := List.mem_flatMap.1 member
  have low := forest.le_of_mem_subtree below
  have here := (mem_bindingsOf.1 made).1
  rw [Bool.not_eq_true', ← Bool.not_eq_true, isLive_iff]
  rintro ⟨c, live, same, -⟩
  have high := behind c live
  rw [same, here] at high
  exact Nat.not_lt_of_le low high

/-! ## Calls that do not reach a subtree -/

section Calls

variable {d d' : Document} {c : Call} {result x : Nat}

/-- A call leaves the walk of a node unless its target is on it. -/
theorem Forest.subtree_perform (forest : d.Forest) (done : c.perform d = .ok (d', result))
    (inside : x < d.size) (outside : ∀ t, c.target? d = some t → t ∉ d.subtree x) :
    d'.subtree x = d.subtree x := by
  rcases forest.perform_cases done with ⟨n, scope, -, same⟩ | ⟨p, m, i, k, target, spliced, -⟩
  · exact subtree_congr same x
  · exact forest.subtree_of_not_mem spliced inside (outside p target)

/-- A call leaves the tree of a node unless its target is in it. -/
theorem Forest.toMarkup_perform (forest : d.Forest) (done : c.perform d = .ok (d', result))
    (inside : x < d.size) (outside : ∀ t, c.target? d = some t → t ∉ d.subtree x) :
    d'.toMarkup x = d.toMarkup x := by
  rcases forest.perform_cases done with ⟨n, scope, -, same⟩ | ⟨p, m, i, k, target, spliced, -⟩
  · exact toMarkup_congr same x
  · have inside' : x < d'.size := by rw [spliced.size]; omega
    rw [(forest.spliced spliced).toMarkup_eq_some inside', forest.toMarkup_eq_some inside,
      forest.shown_of_not_mem spliced inside (outside p target)]

/-- In a subtree where everything declarative is live, a call makes nothing live. -/
theorem Forest.filter_bindings_perform (forest : d.Forest)
    (done : c.perform d = .ok (d', result)) {nodes : List Nat}
    (settled : ∀ y ∈ nodes, ∀ name value, d.Carries y name value → d.Live y name) :
    d'.bindings.filter (fun b => b.node ∈ nodes) = d.bindings.filter fun b => b.node ∈ nodes := by
  rcases forest.bindings_cases done with ⟨n, scope, -, -, rfl⟩ | ⟨-, same, -⟩
  · have nothing : (d.dormant n scope).filter (fun b => b.node ∈ nodes) = [] := by
      refine List.filter_eq_nil_iff.2 fun b member => ?_
      obtain ⟨-, -, carries, asleep⟩ := mem_dormant.1 member
      simp only [decide_eq_true_eq]
      exact fun there => asleep (settled b.node there b.name b.expression carries)
    rw [compiled, List.filter_append, nothing, List.append_nil]
  · rw [same]

end Calls

end ConsoleView.Document
