/-
# ConsoleView.Proofs.Document.Failure -- which calls fail

A call names nodes, and it fails exactly if one that it needs is not where it
has to be: the target must be there, a reference must be a child of the target,
and a node that is replaced must have a parent.  In a forest the last of these
is all that a replacement needs, as the insertion inside it is then before a
child (`Forest.insertBefore_child`).  The nodes without a parent are known from
the history (`run_opened_failures`).
-/
import ConsoleView.Proofs.Document.InPlace
import ConsoleView.Proofs.Document.Reachable

namespace ConsoleView.Document

set_option autoImplicit false

section Errors

variable {d : Document} {n p r : Nat} {m : Markup} {scope : Scope} {e : ViewError}

theorem append_eq_error_iff :
    d.append p m = .error e ↔ d.size ≤ p ∧ e = .nodeNotFound p := by
  unfold append
  split
  · rename_i inside
    simp [Nat.not_le_of_lt inside]
  · rename_i outside
    simp [Nat.le_of_not_lt outside, eq_comm]

theorem compile_eq_error_iff :
    d.compile n scope = .error e ↔ d.size ≤ n ∧ e = .nodeNotFound n := by
  unfold compile
  split
  · rename_i inside
    simp [Nat.not_le_of_lt inside]
  · rename_i outside
    simp [Nat.le_of_not_lt outside, eq_comm]

theorem insertBefore_eq_error_iff :
    d.insertBefore p m r = .error e ↔
      d.size ≤ p ∧ e = .nodeNotFound p ∨ p < d.size ∧ r ∉ d.children p ∧ e = .nodeNotFound r := by
  unfold insertBefore
  split
  · rename_i inside
    split
    · rename_i child
      simp [Nat.not_le_of_lt inside, child]
    · rename_i noChild
      simp [inside, Nat.not_le_of_lt inside, noChild, eq_comm]
  · rename_i outside
    simp [outside, Nat.le_of_not_lt outside, eq_comm]

theorem mountMarkup_eq_error_iff {descriptor : Descriptor} :
    d.mountMarkup n descriptor m = .error e ↔
      descriptor.replaces ∧ d.replaceWith n m = .error e ∨
        ¬ descriptor.replaces ∧ d.append n m = .error e := by
  unfold mountMarkup
  split
  · rename_i replaces
    simp [replaces]
  · rename_i fills
    simp [fills]

/-- Before a child of a node there is always room. -/
theorem insertBefore_of_child (child : r ∈ d.children p) (m : Markup) :
    ∃ d', d.insertBefore p m r = .ok (d', d.size) :=
  ⟨_, by rw [insertBefore, if_pos (lt_of_mem_children child), if_pos child]⟩

/-- The insertion inside a replacement is before a child. -/
theorem Forest.insertBefore_child (forest : d.Forest) (parent : d.parent? n = some p) (m : Markup) :
    ∃ d', d.insertBefore p m n = .ok (d', d.size) :=
  insertBefore_of_child (forest.child p n parent) m

/-- **A replacement needs a parent and nothing else.** -/
theorem Forest.replaceWith_eq_error_iff (forest : d.Forest) :
    d.replaceWith n m = .error e ↔ d.parent? n = none ∧ e = .nodeNotFound n := by
  by_cases inside : n < d.size
  · cases parent : d.parent? n with
    | none =>
        rw [replaceWith, if_pos inside, parent]
        simp [eq_comm]
    | some p =>
        obtain ⟨d', inserted⟩ := forest.insertBefore_child parent m
        rw [replaceWith, if_pos inside, parent]
        simp [inserted]
  · rw [replaceWith, if_neg inside]
    simp [parent?_of_le (Nat.le_of_not_lt inside), eq_comm]

end Errors

/-- **Which calls fail, and that they change nothing.**  At every point of a history, a call that
changes the document step by step either does what the call does at once, or fails with the same
error and leaves the document as it was.  Appending and compiling fail exactly for a node that is not
there.  Inserting fails for a parent that is not there, and else for a reference that is not its
child.  Replacing fails exactly for a node that is not there, the root and a node that was replaced
before, and the insertion inside it never fails.  Mounting fails as the operation it stands for. -/
theorem run_opened_failures (tag : String) (attributes : List String) (calls : List Call) :
    let start := opened tag attributes
    let d := start.run calls
    (∀ c : Call,
      (∃ d' result, c.perform d = .ok (d', result) ∧ c.inPlace.run d = .ok result d') ∨
        ∃ e, c.perform d = .error e ∧ c.inPlace.run d = .error e d ∧ c.after d = d) ∧
    (∀ name, (Call.createAnchor name).Succeeds d) ∧
    (∀ p m e, d.append p m = .error e ↔ d.size ≤ p ∧ e = .nodeNotFound p) ∧
    (∀ n scope e, d.compile n scope = .error e ↔ d.size ≤ n ∧ e = .nodeNotFound n) ∧
    (∀ p m r e, d.insertBefore p m r = .error e ↔
      d.size ≤ p ∧ e = .nodeNotFound p ∨ p < d.size ∧ r ∉ d.children p ∧ e = .nodeNotFound r) ∧
    (∀ n m e, d.replaceWith n m = .error e ↔
      (d.size ≤ n ∨ n = root ∨ start.Detached calls n) ∧ e = .nodeNotFound n) ∧
    (∀ n p, d.parent? n = some p → ∀ m, ∃ d', d.insertBefore p m n = .ok (d', d.size)) ∧
    (∀ anchor descriptor m e, d.mountMarkup anchor descriptor m = .error e ↔
      descriptor.replaces ∧ d.replaceWith anchor m = .error e ∨
        ¬ descriptor.replaces ∧ d.append anchor m = .error e) := by
  intro start d
  have forest : d.Forest := forest_run_opened tag attributes calls
  have parentless : ∀ n, d.parent? n = none ↔
      d.size ≤ n ∨ n = root ∨ start.Detached calls n := by
    intro n
    rw [← parentless_run_iff tag attributes calls n]
    constructor
    · intro none_there
      by_cases inside : n < d.size
      · exact Or.inr ⟨inside, none_there⟩
      · exact Or.inl (Nat.le_of_not_lt inside)
    · rintro (outside | ⟨-, none_there⟩)
      · exact parent?_of_le outside
      · exact none_there
  refine ⟨fun c => ?_, fun name => ⟨_, _, rfl⟩, fun p m e => append_eq_error_iff,
    fun n scope e => compile_eq_error_iff, fun p m r e => insertBefore_eq_error_iff, fun n m e => ?_,
    fun n p => forest.insertBefore_child, fun anchor descriptor m e => mountMarkup_eq_error_iff⟩
  · rw [c.inPlace_eq, InPlace.run_atOnce]
    cases outcome : c.perform d with
    | ok made => exact Or.inl ⟨made.1, made.2, rfl, rfl⟩
    | error e => exact Or.inr ⟨e, rfl, rfl, by rw [Call.after, outcome]⟩
  · rw [forest.replaceWith_eq_error_iff, parentless]

end ConsoleView.Document
