/-
# ConsoleView.Proofs.Document.Forest -- the links of a document

A link is stored twice, as a parent and among the children.  `Forest` says that
the two agree, that no child is listed twice, and that links run from lower to
higher positions.  A splice keeps all of it (`Forest.spliced`), although the
steps inside an edit do not: a tree is laid out before its root is linked, and a
node that is replaced is cut out before it loses its parent.
-/
import ConsoleView.Proofs.Document.Splice

namespace ConsoleView.Document

set_option autoImplicit false

/-- The links of a document make a forest. -/
structure Forest (d : Document) : Prop where
  rooted : 0 < d.size
  parent : ∀ p c : Nat, c ∈ d.children p → d.parent? c = some p
  child : ∀ p c : Nat, d.parent? c = some p → c ∈ d.children p
  distinct : ∀ p : Nat, (d.children p).Nodup
  later : ∀ p c : Nat, c ∈ d.children p → p < c

/-- No text has children. -/
def TextsBare (d : Document) : Prop := ∀ n, d.isText n → d.children n = []

theorem textsBare_iff_all {d : Document} :
    d.TextsBare ↔ ∀ n < d.size, d.isText n → d.children n = [] := by
  constructor
  · exact fun bare n _ => bare n
  · intro inside n isText
    by_cases known : n < d.size
    · exact inside n known isText
    · exact children_of_le (Nat.le_of_not_lt known)

instance (d : Document) : Decidable d.TextsBare := decidable_of_iff _ textsBare_iff_all.symm

namespace Forest

variable {d d' : Document} {p n c id : Nat} {m : Markup}

theorem mem_children_iff (forest : d.Forest) : c ∈ d.children p ↔ d.parent? c = some p :=
  ⟨forest.parent p c, forest.child p c⟩

theorem child_lt (forest : d.Forest) (member : c ∈ d.children p) : c < d.size :=
  lt_of_parent? (forest.parent p c member)

theorem parent_lt (forest : d.Forest) (parent : d.parent? c = some p) : p < d.size :=
  lt_of_mem_children (forest.child p c parent)

/-- No node is listed under two parents. -/
theorem parent_unique (forest : d.Forest) {q : Nat} (first : c ∈ d.children p)
    (second : c ∈ d.children q) : p = q :=
  Option.some.inj ((forest.parent p c first).symm.trans (forest.parent q c second))

/-! ## A document that has only its root -/

theorem children_withRoot (tag : String) (p : Nat) : (Document.withRoot tag).children p = [] := by
  cases p with
  | zero => rfl
  | succ p => exact children_of_le (by simp [Document.withRoot, size])

theorem withRoot (tag : String) : (Document.withRoot tag).Forest := by
  have parentless : ∀ c : Nat, (Document.withRoot tag).parent? c = none := by
    intro c
    cases c with
    | zero => rfl
    | succ c => exact parent?_of_le (by simp [Document.withRoot, size])
  exact {
    rooted := by simp [Document.withRoot, size]
    parent := fun p c member => by rw [children_withRoot] at member; cases member
    child := fun p c parent => by rw [parentless] at parent; cases parent
    distinct := fun p => by rw [children_withRoot]; exact List.nodup_nil
    later := fun p c member => by rw [children_withRoot] at member; cases member }

/-- Links do not depend on what is declarative or live. -/
theorem congr_nodes (forest : d.Forest) (same : d'.nodes = d.nodes) : d'.Forest := by
  obtain ⟨nodes, attributes, bindings⟩ := d
  obtain ⟨nodes', attributes', bindings'⟩ := d'
  cases same
  exact ⟨forest.rooted, forest.parent, forest.child, forest.distinct, forest.later⟩

/-! ## A splice -/

section Splice

variable {i k : Nat}

/-- Of the old children of the target, those that are cut out have lost their parent. -/
theorem parent_of_spliced (forest : d.Forest) (spliced : d.Spliced p m i k d')
    (member : c ∈ d.children p) (kept : c ∉ cutOut i k (d.children p)) :
    d'.parent? c = some p := by
  rw [spliced.parent c (forest.child_lt member), if_neg kept, forest.parent p c member]

theorem mem_children_spliced (forest : d.Forest) (spliced : d.Spliced p m i k d') :
    c ∈ d'.children p ↔ c = d.size ∨ c ∈ d.children p ∧ c ∉ cutOut i k (d.children p) := by
  rw [spliced.spliced, mem_splice (forest.distinct p)]

/-- The new nodes are one tree, whose root has the target as parent. -/
theorem planted_spliced (spliced : d.Spliced p m i k d') :
    d'.Planted p d.size d'.size [d.size] := by
  rw [spliced.size]
  exact planted_layout d' p d.size m spliced.held

/-- **A splice keeps the forest.** -/
theorem spliced (forest : d.Forest) (spliced : d.Spliced p m i k d') : d'.Forest := by
  have block := planted_spliced spliced
  have target := spliced.target
  have room : d.size < d'.size := (block.root d.size (List.mem_singleton_self _)).2.1
  have newRoot : d'.parent? d.size = some p :=
    (block.root d.size (List.mem_singleton_self _)).2.2
  have fresh : d.size ∉ d.children p := fun member => Nat.lt_irrefl _ (forest.child_lt member)
  refine ⟨by omega, ?parent, ?child, ?distinct, ?later⟩
  case parent =>
    intro q c member
    by_cases old : q < d.size
    · by_cases atTarget : q = p
      · subst atTarget
        rcases (forest.mem_children_spliced spliced).1 member with rfl | ⟨member, kept⟩
        · exact newRoot
        · exact forest.parent_of_spliced spliced member kept
      · rw [spliced.children q old atTarget] at member
        have kept : c ∉ cutOut i k (d.children p) := fun cut =>
          atTarget (forest.parent_unique member (mem_of_mem_cutOut cut))
        rw [spliced.parent c (forest.child_lt member), if_neg kept, forest.parent q c member]
    · exact (block.child q (by omega) (lt_of_mem_children member) c member).2.2
  case child =>
    intro q c parent
    by_cases old : c < d.size
    · rw [spliced.parent c old] at parent
      split at parent
      · cases parent
      · rename_i kept
        have member := forest.child q c parent
        by_cases atTarget : q = p
        · subst atTarget
          exact (forest.mem_children_spliced spliced).2 (Or.inr ⟨member, kept⟩)
        · rwa [spliced.children q (forest.parent_lt parent) atTarget]
    · rcases block.linked c (by omega) (lt_of_parent? parent) with isRoot | ⟨y, low, high, member⟩
      · rw [List.mem_singleton.1 isRoot] at parent ⊢
        obtain rfl : p = q := Option.some.inj (newRoot.symm.trans parent)
        exact (forest.mem_children_spliced spliced).2 (Or.inl rfl)
      · have found := (block.child y low high c member).2.2
        obtain rfl : y = q := Option.some.inj (found.symm.trans parent)
        exact member
  case distinct =>
    intro q
    by_cases old : q < d.size
    · by_cases atTarget : q = p
      · subst atTarget
        rw [spliced.spliced]
        exact nodup_splice (forest.distinct q) fresh
      · rw [spliced.children q old atTarget]
        exact forest.distinct q
    · by_cases inside : q < d'.size
      · exact block.distinct q (by omega) inside
      · rw [children_of_le (by omega)]
        exact List.nodup_nil
  case later =>
    intro q c member
    by_cases old : q < d.size
    · by_cases atTarget : q = p
      · subst atTarget
        rcases (forest.mem_children_spliced spliced).1 member with rfl | ⟨member, -⟩
        · exact old
        · exact forest.later q c member
      · rw [spliced.children q old atTarget] at member
        exact forest.later q c member
    · exact (block.child q (by omega) (lt_of_mem_children member) c member).1

/-- The nodes without a parent are those that had none and those that are cut out. -/
theorem parentless_spliced (forest : d.Forest) (spliced : d.Spliced p m i k d') :
    n < d'.size ∧ d'.parent? n = none ↔
      n < d.size ∧ d.parent? n = none ∨ n ∈ cutOut i k (d.children p) := by
  by_cases old : n < d.size
  · have inside : n < d'.size := by have := spliced.size; omega
    rw [spliced.parent n old]
    by_cases cut : n ∈ cutOut i k (d.children p) <;> simp [cut, old, inside]
  · constructor
    · rintro ⟨inside, parentless⟩
      have block := planted_spliced spliced
      exfalso
      rcases block.linked n (by omega) inside with isRoot | ⟨y, -, -, member⟩
      · rw [(block.root n isRoot).2.2] at parentless
        cases parentless
      · rw [(forest.spliced spliced).parent y n member] at parentless
        cases parentless
    · rintro (⟨inside, -⟩ | cut)
      · exact absurd inside old
      · exact absurd (forest.child_lt (mem_of_mem_cutOut cut)) old

end Splice

/-! ## Texts -/

/-- A splice leaves texts without children exactly if it does not give one children. -/
theorem textsBare_spliced_iff {i k : Nat} (spliced : d.Spliced p m i k d') :
    d'.TextsBare ↔ d.TextsBare ∧ d.isText p = false := by
  have target := spliced.target
  have same : ∀ x < d.size, d'.isText x = d.isText x := fun x old =>
    isText_congr (spliced.content x old)
  constructor
  · intro bare
    have notText : d.isText p = false := by
      by_contra isText
      have empty := bare p (by rw [same p target]; simpa using isText)
      rw [spliced.spliced, splice] at empty
      simp at empty
    refine ⟨fun n isText => ?_, notText⟩
    by_cases old : n < d.size
    · have ne : n ≠ p := fun e => by rw [e, notText] at isText; cases isText
      rw [← spliced.children n old ne]
      exact bare n (by rw [same n old]; exact isText)
    · exact children_of_le (by omega)
  · rintro ⟨bare, notText⟩ n isText
    by_cases old : n < d.size
    · rw [same n old] at isText
      have ne : n ≠ p := fun e => by rw [e, notText] at isText; cases isText
      rw [spliced.children n old ne]
      exact bare n isText
    · by_cases inside : n < d'.size
      · exact (planted_spliced spliced).bare n (by omega) inside isText
      · exact children_of_le (by omega)

/-! ## Replacing -/

/-- Replacing succeeds only below a parent, and is a splice there. -/
theorem spliced_replaceWith (forest : d.Forest) (done : d.replaceWith n m = .ok (d', id)) :
    id = d.size ∧ ∃ p i, (d.children p)[i]? = some n ∧ d.Spliced p m i 1 d' := by
  unfold replaceWith at done
  split at done
  · rename_i inside
    split at done
    · cases done
    · rename_i p parent
      split at done
      · cases done
      · rename_i e new inserted
        cases done
        obtain ⟨rfl, i, item, spliced⟩ := spliced_insertBefore inserted
        exact ⟨rfl, p, i, item, spliced.cut (forest.distinct p) inside item⟩
  · cases done

end Forest

end ConsoleView.Document
