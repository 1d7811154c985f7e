/-
# ConsoleView.Proofs.Document.Activation -- which attributes are live, and since when

Compiling a subtree adds, for each declarative attribute in it that is not live,
one binding at the end (`Forest.compile_eq`).  Over a whole history this means:
an attribute is live once a compilation has reached its node, under the scope of
the first one that did, and stays as it was activated (`run_opened_bindings`).
Nodes that are inserted, detached or compiled again in between change nothing of
that, as a node's attributes never change and its position is never reused.
-/
import ConsoleView.Proofs.Document.Reachable
import Mathlib.Data.Set.Card

namespace ConsoleView

set_option autoImplicit false

/-- A live attribute: its node and its name. -/
def ActiveBinding.key (b : ActiveBinding) : Nat × String := (b.node, b.name)

namespace Document

/-- The node has the declarative attribute, with the value. -/
def Carries (d : Document) (n : Nat) (name value : String) : Prop :=
  name ∈ d.bindingAttributes ∧ (name, value) ∈ d.attributePairs n

def Live (d : Document) (n : Nat) (name : String) : Prop :=
  ∃ b ∈ d.bindings, b.node = n ∧ b.name = name

/-- A compilation that succeeded had the node in the subtree it was asked for. -/
def Reached (d : Document) (calls : List Call) (x : Nat) : Prop :=
  d.Happened (fun e c => ∃ n scope, c = .compile n scope ∧ c.Succeeds e ∧ x ∈ e.subtree n) calls

/-- The declarative attributes of a subtree that are not live, as bindings under a scope. -/
def dormant (d : Document) (n : Nat) (scope : Scope) : List ActiveBinding :=
  ((d.subtree n).flatMap (d.bindingsOf scope)).filter fun b => !isLive d.bindings b.node b.name

/-- The document in which what was dormant in a subtree is live. -/
def compiled (d : Document) (n : Nat) (scope : Scope) : Document :=
  { d with bindings := d.bindings ++ d.dormant n scope }

/-! ## Activating a list -/

theorem isLive_iff {bindings : List ActiveBinding} {n : Nat} {name : String} :
    isLive bindings n name = true ↔ ∃ b ∈ bindings, b.node = n ∧ b.name = name := by
  simp [isLive, List.any_eq_true]

theorem isLive_concat {bindings : List ActiveBinding} {b c : ActiveBinding} (ne : b.key ≠ c.key) :
    isLive (bindings ++ [b]) c.node c.name = isLive bindings c.node c.name := by
  have other : (b.node == c.node && b.name == c.name) = false := by
    by_contra same
    simp only [Bool.not_eq_false, Bool.and_eq_true, beq_iff_eq] at same
    exact ne (Prod.ext same.1 same.2)
  simp only [isLive, List.any_append, List.any_cons, List.any_nil, other, Bool.or_false]

/-- Of attributes that are all different, those that are not live are added in order. -/
theorem foldl_activate {new : List ActiveBinding} (distinct : (new.map ActiveBinding.key).Nodup)
    (bindings : List ActiveBinding) :
    new.foldl activate bindings =
      bindings ++ new.filter fun b => !isLive bindings b.node b.name := by
  induction new generalizing bindings with
  | nil => simp
  | cons b rest ih =>
      obtain ⟨fresh, distinct⟩ := List.nodup_cons.1 distinct
      rw [List.foldl_cons, ih distinct, activate]
      by_cases live : isLive bindings b.node b.name
      · rw [if_pos live, List.filter_cons_of_neg (by simp [live])]
      · have same : rest.filter (fun c => !isLive (bindings ++ [b]) c.node c.name) =
            rest.filter fun c => !isLive bindings c.node c.name := by
          refine List.filter_congr fun c member => ?_
          have ne : b.key ≠ c.key := fun e => fresh (e ▸ List.mem_map_of_mem member)
          rw [isLive_concat ne]
        rw [if_neg live, same, List.filter_cons_of_pos (by simp [live]), List.append_assoc,
          List.singleton_append]

/-! ## The attributes of a subtree -/

section Attributes

variable {d d' : Document} {n x : Nat} {scope : Scope} {name value : String} {b : ActiveBinding}

theorem attributePairs_eq (d : Document) (n : Nat) :
    d.attributePairs n =
      match d.content? n with
      | some (.element _ attributes) => attributes.pairs
      | _ => [] := by
  cases found : d.nodes[n]? with
  | none => simp [attributePairs, content?, found]
  | some node =>
      obtain ⟨content, parent, children⟩ := node
      cases content <;> simp [attributePairs, content?, found]

theorem attributePairs_congr (same : d'.content? n = d.content? n) :
    d'.attributePairs n = d.attributePairs n := by
  rw [attributePairs_eq, attributePairs_eq, same]

theorem distinct_attributePairs (d : Document) (n : Nat) :
    ((d.attributePairs n).map Prod.fst).Nodup := by
  rw [attributePairs_eq]
  split
  · rename_i attributes found
    exact attributes.distinct
  · exact List.nodup_nil

theorem mem_bindingsOf :
    b ∈ d.bindingsOf scope n ↔ b.node = n ∧ b.scope = scope ∧ d.Carries n b.name b.expression := by
  rw [bindingsOf, List.mem_filterMap, Carries]
  constructor
  · rintro ⟨pair, member, made⟩
    split at made
    · rename_i declarative
      cases made
      exact ⟨rfl, rfl, by simpa using declarative, member⟩
    · cases made
  · rintro ⟨rfl, rfl, declarative, member⟩
    exact ⟨_, member, by rw [if_pos (by simpa using declarative)]⟩

theorem map_key_bindingsOf (d : Document) (scope : Scope) (n : Nat) :
    (d.bindingsOf scope n).map ActiveBinding.key =
      (((d.attributePairs n).filter fun pair => d.bindingAttributes.contains pair.1).map
        Prod.fst).map (Prod.mk n) := by
  rw [bindingsOf]
  induction d.attributePairs n with
  | nil => rfl
  | cons pair rest ih =>
      by_cases declarative : d.bindingAttributes.contains pair.1 = true
      · simp only [List.filterMap_cons, List.filter_cons, if_pos declarative, List.map_cons, ih]
        rfl
      · simp only [List.filterMap_cons, List.filter_cons, if_neg declarative, ih]

/-- The declarative attributes of a node are all different. -/
theorem distinct_bindingsOf (d : Document) (scope : Scope) (n : Nat) :
    ((d.bindingsOf scope n).map ActiveBinding.key).Nodup := by
  rw [map_key_bindingsOf]
  exact ((distinct_attributePairs d n).sublist (List.filter_sublist.map _)).map
    (Prod.mk_right_injective n)

theorem mem_dormant :
    b ∈ d.dormant n scope ↔
      b.node ∈ d.subtree n ∧ b.scope = scope ∧ d.Carries b.node b.name b.expression ∧
        ¬ d.Live b.node b.name := by
  rw [dormant, List.mem_filter, List.mem_flatMap, Live, ← isLive_iff]
  simp only [mem_bindingsOf, Bool.not_eq_true', Bool.not_eq_true]
  constructor
  · rintro ⟨⟨x, member, rfl, same, carries⟩, asleep⟩
    exact ⟨member, same, carries, asleep⟩
  · rintro ⟨member, same, carries, asleep⟩
    exact ⟨⟨_, member, rfl, same, carries⟩, asleep⟩

theorem Forest.distinct_candidates (forest : d.Forest) (n : Nat) (scope : Scope) :
    (((d.subtree n).flatMap (d.bindingsOf scope)).map ActiveBinding.key).Nodup := by
  rw [List.map_flatMap]
  refine List.nodup_flatMap.2 ⟨fun x _ => distinct_bindingsOf d scope x, ?_⟩
  refine (forest.nodup_subtree n).imp fun {x y} ne key inFirst inSecond => ne ?_
  obtain ⟨b, first, rfl⟩ := List.mem_map.1 inFirst
  obtain ⟨c, second, same⟩ := List.mem_map.1 inSecond
  rw [← (mem_bindingsOf.1 first).1, ← (mem_bindingsOf.1 second).1]
  exact (Prod.ext_iff.1 same).1.symm

/-- **Compiling adds what is dormant in the subtree, and counts it.** -/
theorem Forest.compile_eq (forest : d.Forest) (inside : n < d.size) (scope : Scope) :
    d.compile n scope =
      .ok (d.compiled n scope, (d.dormant n scope).length) := by
  rw [compile, if_pos inside, foldl_activate (forest.distinct_candidates n scope), compiled, dormant]
  simp

theorem mem_keys_dormant :
    (x, name) ∈ (d.dormant n scope).map ActiveBinding.key ↔
      x ∈ d.subtree n ∧ (∃ value, d.Carries x name value) ∧ ¬ d.Live x name := by
  rw [List.mem_map]
  constructor
  · rintro ⟨b, member, same⟩
    cases same
    obtain ⟨below, -, carries, asleep⟩ := mem_dormant.1 member
    exact ⟨below, ⟨_, carries⟩, asleep⟩
  · rintro ⟨below, ⟨value, carries⟩, asleep⟩
    exact ⟨⟨x, name, value, scope⟩, mem_dormant.2 ⟨below, rfl, carries, asleep⟩, rfl⟩

theorem Forest.distinct_dormant (forest : d.Forest) (n : Nat) (scope : Scope) :
    ((d.dormant n scope).map ActiveBinding.key).Nodup :=
  (forest.distinct_candidates n scope).sublist (List.filter_sublist.map _)

/-- The number that compiling gives is that of the dormant attributes. -/
theorem Forest.length_dormant (forest : d.Forest) (n : Nat) (scope : Scope) :
    (d.dormant n scope).length = Set.ncard {pair : Nat × String |
      pair.1 ∈ d.subtree n ∧ (∃ value, d.Carries pair.1 pair.2 value) ∧
        ¬ d.Live pair.1 pair.2} := by
  have same : {pair : Nat × String | pair.1 ∈ d.subtree n ∧
      (∃ value, d.Carries pair.1 pair.2 value) ∧ ¬ d.Live pair.1 pair.2} =
      ↑((d.dormant n scope).map ActiveBinding.key).toFinset := by
    ext ⟨x, name⟩
    rw [Finset.mem_coe, List.mem_toFinset, mem_keys_dormant]
    rfl
  rw [same, Set.ncard_coe_finset, List.toFinset_card_of_nodup (forest.distinct_dormant n scope),
    List.length_map]

theorem Carries.lt (carries : d.Carries n name value) : n < d.size := by
  by_contra outside
  have none_there : d.attributePairs n = [] := by
    rw [attributePairs, node_none_of_le (Nat.le_of_not_lt outside)]
  rw [Carries, none_there] at carries
  exact List.not_mem_nil carries.2

/-- After compiling, an attribute is live if it was or if the subtree has it. -/
theorem live_compiled :
    (d.compiled n scope).Live x name ↔
      d.Live x name ∨ x ∈ d.subtree n ∧ ∃ value, d.Carries x name value := by
  have keys : (d.compiled n scope).Live x name ↔
      d.Live x name ∨ (x, name) ∈ (d.dormant n scope).map ActiveBinding.key := by
    simp only [compiled, Live, List.mem_append, or_and_right, exists_or, List.mem_map,
      ActiveBinding.key, Prod.mk.injEq]
  rw [keys, mem_keys_dormant]
  tauto

/-- Compiling again finds nothing to do. -/
theorem Forest.compile_again (forest : d.Forest) (inside : n < d.size) (scope again : Scope) :
    (d.compiled n scope).compile n again = .ok (d.compiled n scope, 0) := by
  have forest' : (d.compiled n scope).Forest := forest.congr_nodes rfl
  have sameTree : (d.compiled n scope).subtree n = d.subtree n :=
    subtree_congr (show (d.compiled n scope).nodes = d.nodes from rfl) n
  have nothing : (d.compiled n scope).dormant n again = [] := by
    refine List.eq_nil_iff_forall_not_mem.2 fun b member => ?_
    obtain ⟨below, -, carries, asleep⟩ := mem_dormant.1 member
    rw [sameTree] at below
    exact asleep (live_compiled.2 (Or.inr ⟨below, b.expression, carries⟩))
  rw [forest'.compile_eq inside, compiled, nothing, List.append_nil]
  rfl

end Attributes

/-! ## One call -/

section Step

variable {d d' : Document} {c : Call} {result : Nat}

theorem succeeds_compile_iff {n : Nat} {scope : Scope} :
    (Call.compile n scope).Succeeds d ↔ n < d.size := by
  constructor
  · rintro ⟨d', result, done⟩
    by_contra outside
    rw [Call.perform, compile, if_neg outside] at done
    cases done
  · intro inside
    exact ⟨_, _, by rw [Call.perform, compile, if_pos inside]⟩

/-- **What a successful call does to the bindings**: a compilation adds what is dormant, every other
call leaves them. -/
theorem Forest.bindings_cases (forest : d.Forest) (done : c.perform d = .ok (d', result)) :
    (∃ n scope, c = .compile n scope ∧ n < d.size ∧ d' = d.compiled n scope) ∨
      (∀ n scope, c ≠ .compile n scope) ∧ d'.bindings = d.bindings ∧
        d'.bindingAttributes = d.bindingAttributes := by
  rcases forest.perform_cases done with ⟨n, scope, rfl, -⟩ | ⟨p, m, i, k, target, spliced, -⟩
  · have inside : n < d.size := succeeds_compile_iff.1 ⟨d', result, done⟩
    rw [Call.perform, forest.compile_eq inside] at done
    cases done
    exact Or.inl ⟨n, scope, rfl, inside, rfl⟩
  · refine Or.inr ⟨?_, spliced.bindings, spliced.bindingAttributes⟩
    rintro n scope rfl
    cases target

theorem Forest.carries_perform (forest : d.Forest) (done : c.perform d = .ok (d', result))
    {x : Nat} (inside : x < d.size) {name value : String} :
    d'.Carries x name value ↔ d.Carries x name value := by
  rw [Carries, Carries, attributePairs_congr (forest.content?_perform done inside)]
  rcases forest.bindings_cases done with ⟨n, scope, -, -, rfl⟩ | ⟨-, -, same⟩
  · exact Iff.rfl
  · rw [same]

theorem Forest.bindings_grow (forest : d.Forest) (done : c.perform d = .ok (d', result)) :
    d.bindings <+: d'.bindings := by
  rcases forest.bindings_cases done with ⟨n, scope, -, -, rfl⟩ | ⟨-, same, -⟩
  · exact List.prefix_append _ _
  · rw [same]

theorem Forest.distinct_perform (forest : d.Forest) (done : c.perform d = .ok (d', result))
    (distinct : (d.bindings.map ActiveBinding.key).Nodup) :
    (d'.bindings.map ActiveBinding.key).Nodup := by
  rcases forest.bindings_cases done with ⟨n, scope, -, -, rfl⟩ | ⟨-, same, -⟩
  · rw [compiled, List.map_append]
    refine List.nodup_append.2 ⟨distinct, forest.distinct_dormant n scope, ?_⟩
    rintro key old key' new rfl
    obtain ⟨b, member, rfl⟩ := List.mem_map.1 old
    exact (mem_keys_dormant.1 new).2.2 ⟨b, member, rfl, rfl⟩
  · rwa [same]

theorem Forest.carried_perform (forest : d.Forest) (done : c.perform d = .ok (d', result))
    (carried : ∀ b ∈ d.bindings, d.Carries b.node b.name b.expression) :
    ∀ b ∈ d'.bindings, d'.Carries b.node b.name b.expression := by
  have kept : ∀ b : ActiveBinding, d.Carries b.node b.name b.expression →
      d'.Carries b.node b.name b.expression := fun b carries =>
    (forest.carries_perform done carries.lt).2 carries
  intro b member
  rcases forest.bindings_cases done with ⟨n, scope, -, -, rfl⟩ | ⟨-, same, -⟩
  · rcases List.mem_append.1 member with old | new
    · exact kept b (carried b old)
    · exact kept b (mem_dormant.1 new).2.2.1
  · rw [same] at member
    exact kept b (carried b member)

end Step

/-! ## Histories -/

section History

variable {start : Document} {calls : List Call} {x : Nat} {name : String}

theorem reached_concat {c : Call} :
    start.Reached (calls ++ [c]) x ↔ start.Reached calls x ∨
      ∃ n scope, c = .compile n scope ∧ c.Succeeds (start.run calls) ∧
        x ∈ (start.run calls).subtree n :=
  happened_concat calls c

theorem Forest.lt_of_reached (forest : start.Forest) (reached : start.Reached calls x) :
    x < (start.run calls).size := by
  obtain ⟨before, c, later, rfl, n, scope, rfl, succeeded, below⟩ := reached
  have inside := succeeds_compile_iff.1 succeeded
  have known := (forest.run before).lt_of_mem_subtree inside below
  rw [run_append]
  exact Nat.lt_of_lt_of_le known ((forest.run before).size_le_run _)

/-- **An attribute is live once a compilation has reached its node.** -/
theorem Forest.live_run_iff (forest : start.Forest) (none_yet : start.bindings = []) :
    (start.run calls).Live x name ↔
      start.Reached calls x ∧ ∃ value, (start.run calls).Carries x name value := by
  induction calls using List.reverseRecOn with
  | nil =>
      refine iff_of_false ?_ fun reached => not_happened_nil reached.1
      rintro ⟨b, member, -⟩
      rw [Document.run, List.foldl_nil, none_yet] at member
      cases member
  | append_singleton calls c ih =>
      rw [run_concat, reached_concat]
      by_cases succeeds : c.Succeeds (start.run calls)
      · obtain ⟨d', result, done⟩ := succeeds
        rw [Call.after_of_ok done]
        rcases (forest.run calls).bindings_cases done with
          ⟨n, scope, rfl, inside, rfl⟩ | ⟨noCompile, same, -⟩
        · have now : (∃ n' scope', Call.compile n scope = .compile n' scope' ∧
              (Call.compile n scope).Succeeds (start.run calls) ∧
                x ∈ (start.run calls).subtree n') ↔ x ∈ (start.run calls).subtree n := by
            constructor
            · rintro ⟨n', scope', made, -, below⟩
              cases made
              exact below
            · exact fun below => ⟨n, scope, rfl, ⟨_, _, done⟩, below⟩
          have carries : ∀ value, ((start.run calls).compiled n scope).Carries x name value ↔
              (start.run calls).Carries x name value := fun value => Iff.rfl
          simp only [now, carries]
          rw [live_compiled, ih, or_and_right]
        · have later : ¬ ∃ n scope, c = .compile n scope ∧ c.Succeeds (start.run calls) ∧
              x ∈ (start.run calls).subtree n := by
            rintro ⟨n, scope, made, -⟩
            exact noCompile n scope made
          rw [Live, same, ← Live, ih, or_iff_left later]
          refine and_congr_right fun reached => exists_congr fun value => ?_
          exact ((forest.run calls).carries_perform done (forest.lt_of_reached reached)).symm
      · have nothing : ¬ ∃ n scope, c = .compile n scope ∧ c.Succeeds (start.run calls) ∧
            x ∈ (start.run calls).subtree n := by
          rintro ⟨n, scope, -, succeeded, -⟩
          exact succeeds succeeded
        rw [Call.after_of_error succeeds, or_iff_left nothing, ih]

/-- The first compilation that reached a node gave its scope to the node's attributes. -/
theorem Forest.scope_of_run (forest : start.Forest) (none_yet : start.bindings = [])
    {b : ActiveBinding} (member : b ∈ (start.run calls).bindings) :
    ∃ before n later, calls = before ++ .compile n b.scope :: later ∧
      (Call.compile n b.scope).Succeeds (start.run before) ∧
      b.node ∈ (start.run before).subtree n ∧ ¬ start.Reached before b.node := by
  induction calls using List.reverseRecOn with
  | nil =>
      rw [Document.run, List.foldl_nil, none_yet] at member
      cases member
  | append_singleton calls c ih =>
      have earlier : b ∈ (start.run calls).bindings → ∃ before n later,
          calls ++ [c] = before ++ .compile n b.scope :: later ∧
          (Call.compile n b.scope).Succeeds (start.run before) ∧
          b.node ∈ (start.run before).subtree n ∧ ¬ start.Reached before b.node := by
        intro old
        obtain ⟨before, n, later, rfl, first⟩ := ih old
        exact ⟨before, n, later ++ [c], by simp, first⟩
      rw [run_concat] at member
      by_cases succeeds : c.Succeeds (start.run calls)
      · obtain ⟨d', result, done⟩ := succeeds
        rw [Call.after_of_ok done] at member
        rcases (forest.run calls).bindings_cases done with
          ⟨n, scope, rfl, inside, rfl⟩ | ⟨-, same, -⟩
        · rcases List.mem_append.1 member with old | new
          · exact earlier old
          · obtain ⟨below, rfl, carries, asleep⟩ := mem_dormant.1 new
            refine ⟨calls, n, [], rfl, ⟨_, _, done⟩, below, fun reached => asleep ?_⟩
            exact (forest.live_run_iff none_yet).2 ⟨reached, b.expression, carries⟩
        · rw [same] at member
          exact earlier member
      · rw [Call.after_of_error succeeds] at member
        exact earlier member

/-- Live bindings stay, at their places. -/
theorem Forest.bindings_grow_run (forest : start.Forest) (calls : List Call) :
    start.bindings <+: (start.run calls).bindings :=
  forest.run_induction (motive := fun e => start.bindings <+: e.bindings) (List.prefix_refl _)
    (fun known sofar done => sofar.trans (known.bindings_grow done)) calls

theorem Forest.distinct_run (forest : start.Forest) (none_yet : start.bindings = [])
    (calls : List Call) : ((start.run calls).bindings.map ActiveBinding.key).Nodup :=
  forest.run_induction (motive := fun e => (e.bindings.map ActiveBinding.key).Nodup)
    (by simp [none_yet]) (fun known distinct done => known.distinct_perform done distinct) calls

theorem Forest.carried_run (forest : start.Forest) (none_yet : start.bindings = [])
    (calls : List Call) :
    ∀ b ∈ (start.run calls).bindings, (start.run calls).Carries b.node b.name b.expression :=
  forest.run_induction (motive := fun e => ∀ b ∈ e.bindings, e.Carries b.node b.name b.expression)
    (by simp [none_yet]) (fun known carried done => known.carried_perform done carried) calls

theorem Forest.bindingAttributes_run (forest : start.Forest) (calls : List Call) :
    (start.run calls).bindingAttributes = start.bindingAttributes := by
  refine forest.run_induction
    (motive := fun e => e.bindingAttributes = start.bindingAttributes) rfl ?_ calls
  intro d d' c result known same done
  rcases known.bindings_cases done with ⟨n, scope, -, -, rfl⟩ | ⟨-, -, kept⟩
  · exact same
  · rw [kept, same]

end History

/-- **The live attributes of every history.**  With the declarative attributes fixed when a document
is opened: an attribute of a node is live exactly if a compilation has reached the node.  Each is
live once, with the value that the node has and under the scope of the first compilation that reached
the node.  Bindings are only added, at the end.  A compilation gives the number of attributes in the
subtree that were not live, and one that follows at once gives zero and changes nothing. -/
theorem run_opened_bindings (tag : String) (attributes : List String) (calls : List Call) :
    let start := opened tag attributes
    let d := start.run calls
    d.bindingAttributes = start.bindingAttributes ∧
    (∀ x name, d.Live x name ↔ start.Reached calls x ∧ ∃ value, d.Carries x name value) ∧
    (d.bindings.map ActiveBinding.key).Nodup ∧
    (∀ b ∈ d.bindings, d.Carries b.node b.name b.expression ∧
      ∃ before n later, calls = before ++ .compile n b.scope :: later ∧
        (Call.compile n b.scope).Succeeds (start.run before) ∧
        b.node ∈ (start.run before).subtree n ∧ ¬ start.Reached before b.node) ∧
    (∀ before later, calls = before ++ later → (start.run before).bindings <+: d.bindings) ∧
    (∀ n < d.size, ∀ scope, ∃ d', d.compile n scope = .ok (d', Set.ncard {pair : Nat × String |
        pair.1 ∈ d.subtree n ∧ (∃ value, d.Carries pair.1 pair.2 value) ∧
          ¬ d.Live pair.1 pair.2}) ∧
      ∀ again, d'.compile n again = .ok (d', 0)) := by
  intro start d
  have opening : start.Forest := Forest.opened tag attributes
  have none_yet : start.bindings = [] := bindings_opened tag attributes
  have forest : d.Forest := opening.run calls
  refine ⟨opening.bindingAttributes_run calls, fun x name => opening.live_run_iff none_yet,
    opening.distinct_run none_yet calls, fun b member => ?_, ?_, ?_⟩
  · exact ⟨opening.carried_run none_yet calls b member, opening.scope_of_run none_yet member⟩
  · rintro before later rfl
    show (start.run before).bindings <+: (start.run (before ++ later)).bindings
    rw [run_append]
    exact (opening.run before).bindings_grow_run later
  · intro n inside scope
    rw [forest.compile_eq inside, forest.length_dormant]
    exact ⟨d.compiled n scope, rfl, forest.compile_again inside scope⟩

end Document

end ConsoleView
