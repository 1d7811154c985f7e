/-
# ConsoleView.Proofs.Markup.Bindings -- the bindings of a tree before it stands in a document

`bindingsFrom` reads the declarative attributes off a tree, together with the
nodes they are going to stand at if the tree is laid out from `start` on.  There
are as many as the elements of the tree have declarative attributes
(`length_bindingsFrom`).  Activating the laid out tree gives these bindings, in
this order (`Document.walk_layout`).
-/
import ConsoleView.Proofs.Document.Activation

namespace ConsoleView

set_option autoImplicit false

/-- The declarative ones of a node's attributes, as bindings under a scope. -/
def declaredAt (names : List String) (scope : Scope) (n : Nat) (pairs : List (String × String)) :
    List ActiveBinding :=
  pairs.filterMap fun pair =>
    if names.contains pair.1 then
      some { node := n, name := pair.1, expression := pair.2, scope }
    else none

theorem length_declaredAt (names : List String) (scope : Scope) (n : Nat)
    (pairs : List (String × String)) :
    (declaredAt names scope n pairs).length = pairs.countP fun pair => names.contains pair.1 := by
  rw [declaredAt, List.length_filterMap_eq_countP]
  refine List.countP_congr fun pair _ => ?_
  split <;> rename_i declarative <;> simpa using declarative

namespace Markup

mutual

/-- The bindings of a tree that is laid out from `start` on, each before those inside it. -/
def bindingsFrom (names : List String) (scope : Scope) (start : Nat) : Markup → List ActiveBinding
  | .text _ => []
  | .element _ attributes children =>
      declaredAt names scope start attributes.pairs ++
        bindingsFromAll names scope (start + 1) children

def bindingsFromAll (names : List String) (scope : Scope) (start : Nat) :
    List Markup → List ActiveBinding
  | [] => []
  | m :: rest =>
      bindingsFrom names scope start m ++ bindingsFromAll names scope (start + m.nodeCount) rest

end

def declarativeCount (names : List String) (m : Markup) : Nat :=
  (m.elements.flatMap fun e => e.attributes.pairs).countP fun pair => names.contains pair.1

mutual

theorem length_bindingsFrom (names : List String) (scope : Scope) (start : Nat) (m : Markup) :
    (m.bindingsFrom names scope start).length = m.declarativeCount names := by
  match m with
  | .text content => rfl
  | .element tag attributes children =>
      have inner := length_bindingsFromAll names scope (start + 1) children
      simp only [bindingsFrom, declarativeCount, elements, List.length_append, length_declaredAt,
        inner, List.flatMap_cons, List.countP_append]

theorem length_bindingsFromAll (names : List String) (scope : Scope) (start : Nat)
    (ms : List Markup) :
    (bindingsFromAll names scope start ms).length =
      ((elementsOfAll ms).flatMap fun e => e.attributes.pairs).countP
        fun pair => names.contains pair.1 := by
  match ms with
  | [] => rfl
  | m :: rest =>
      have first := length_bindingsFrom names scope start m
      have later := length_bindingsFromAll names scope (start + m.nodeCount) rest
      simp only [bindingsFromAll, elementsOfAll, List.length_append, first, later,
        declarativeCount, List.flatMap_append, List.countP_append]

end

mutual

theorem scope_of_mem_bindingsFrom {names : List String} {scope : Scope} {b : ActiveBinding}
    (start : Nat) (m : Markup) (member : b ∈ m.bindingsFrom names scope start) :
    b.scope = scope := by
  match m with
  | .text content => cases member
  | .element tag attributes children =>
      rw [bindingsFrom, List.mem_append] at member
      rcases member with own | inner
      · obtain ⟨pair, -, made⟩ := List.mem_filterMap.1 own
        split at made <;> cases made
        rfl
      · exact scope_of_mem_bindingsFromAll (start + 1) children inner

theorem scope_of_mem_bindingsFromAll {names : List String} {scope : Scope} {b : ActiveBinding}
    (start : Nat) (ms : List Markup) (member : b ∈ bindingsFromAll names scope start ms) :
    b.scope = scope := by
  match ms with
  | [] => cases member
  | m :: rest =>
      rw [bindingsFromAll, List.mem_append] at member
      rcases member with first | later
      · exact scope_of_mem_bindingsFrom start m first
      · exact scope_of_mem_bindingsFromAll (start + m.nodeCount) rest later

end

end Markup

/-- The binding with its node counted from another one on. -/
def ActiveBinding.within (b : ActiveBinding) (start : Nat) : ActiveBinding :=
  { b with node := b.node - start }

/-- The binding with its node moved on. -/
def ActiveBinding.shift (k : Nat) (b : ActiveBinding) : ActiveBinding :=
  { b with node := k + b.node }

theorem ActiveBinding.within_shift (k : Nat) (b : ActiveBinding) : (b.shift k).within k = b := by
  rw [within, shift, Nat.add_sub_cancel_left]

theorem declaredAt_shift (names : List String) (scope : Scope) (k n : Nat)
    (pairs : List (String × String)) :
    declaredAt names scope (k + n) pairs =
      (declaredAt names scope n pairs).map (ActiveBinding.shift k) := by
  rw [declaredAt, declaredAt, List.map_filterMap]
  refine List.filterMap_congr fun pair _ => ?_
  split <;> rfl

namespace Markup

mutual

/-- A tree that is laid out further on has the same bindings further on. -/
theorem bindingsFrom_shift (names : List String) (scope : Scope) (k start : Nat) (m : Markup) :
    m.bindingsFrom names scope (k + start) =
      (m.bindingsFrom names scope start).map (ActiveBinding.shift k) := by
  match m with
  | .text content => rfl
  | .element tag attributes children =>
      have inner := bindingsFromAll_shift names scope k (start + 1) children
      rw [← Nat.add_assoc] at inner
      rw [bindingsFrom, bindingsFrom, List.map_append, declaredAt_shift, inner]

theorem bindingsFromAll_shift (names : List String) (scope : Scope) (k start : Nat)
    (ms : List Markup) :
    bindingsFromAll names scope (k + start) ms =
      (bindingsFromAll names scope start ms).map (ActiveBinding.shift k) := by
  match ms with
  | [] => rfl
  | m :: rest =>
      have first := bindingsFrom_shift names scope k start m
      have later := bindingsFromAll_shift names scope k (start + m.nodeCount) rest
      rw [← Nat.add_assoc] at later
      rw [bindingsFromAll, bindingsFromAll, List.map_append, first, later]

end

/-- Counted from its root on, a tree has the same bindings wherever it is laid out. -/
theorem map_within_bindingsFrom (names : List String) (scope : Scope) (start : Nat) (m : Markup) :
    (m.bindingsFrom names scope start).map (·.within start) = m.bindingsFrom names scope 0 := by
  have moved := m.bindingsFrom_shift names scope start 0
  rw [Nat.add_zero] at moved
  rw [moved, List.map_map]
  refine (List.map_congr_left fun b _ => ?_).trans (List.map_id _)
  exact ActiveBinding.within_shift start b

end Markup

namespace Document

theorem bindingsOf_eq (d : Document) (scope : Scope) (n : Nat) :
    d.bindingsOf scope n = declaredAt d.bindingAttributes scope n (d.attributePairs n) := rfl

theorem attributePairs_of_node {d : Document} {n : Nat} {node : Node}
    (found : d.nodes[n]? = some node) :
    d.attributePairs n =
      match node.content with
      | .element _ attributes => attributes.pairs
      | .text _ => [] := by
  rw [attributePairs_eq, content?_of_node found]
  cases node.content <;> rfl

mutual

/-- **The walk of a laid out tree finds the bindings of the tree.** -/
theorem walk_layout (d : Document) (scope : Scope) (owner start : Nat) (m : Markup) {fuel : Nat}
    (held : d.Holds start (m.layout owner start)) (enough : m.nodeCount ≤ fuel) :
    (d.subtreeFrom fuel start).flatMap (d.bindingsOf scope) =
      m.bindingsFrom d.bindingAttributes scope start := by
  obtain ⟨fuel, rfl⟩ : ∃ k, fuel = k + 1 := ⟨fuel - 1, by have := nodeCount_pos m; omega⟩
  match m with
  | .text content =>
      obtain ⟨node, -⟩ := held
      rw [subtreeFrom, children_of_node node, List.flatMap_nil, List.flatMap_singleton,
        bindingsOf_eq, attributePairs_of_node node]
      rfl
  | .element tag attributes children =>
      obtain ⟨node, rest⟩ := held
      rw [Markup.nodeCount] at enough
      have room : Markup.nodeCountOfAll children ≤ fuel := by omega
      have below := walk_layoutAll d scope start (start + 1) children rest room
      rw [subtreeFrom, children_of_node node, List.flatMap_cons, List.flatMap_assoc, below,
        bindingsOf_eq, attributePairs_of_node node, Markup.bindingsFrom]

theorem walk_layoutAll (d : Document) (scope : Scope) (owner start : Nat) (ms : List Markup)
    {fuel : Nat} (held : d.Holds start (Markup.layoutAll owner start ms))
    (enough : Markup.nodeCountOfAll ms ≤ fuel) :
    ((Markup.rootsFrom start ms).flatMap fun r =>
        (d.subtreeFrom fuel r).flatMap (d.bindingsOf scope)) =
      Markup.bindingsFromAll d.bindingAttributes scope start ms := by
  match ms with
  | [] => rfl
  | m :: rest =>
      obtain ⟨front, back⟩ := holds_append.1 held
      rw [Markup.length_layout] at back
      rw [Markup.nodeCountOfAll] at enough
      rw [Markup.rootsFrom, List.flatMap_cons,
        walk_layout d scope owner start m front (by omega),
        walk_layoutAll d scope owner (start + m.nodeCount) rest back (by omega),
        Markup.bindingsFromAll]

end

end Document

end ConsoleView
