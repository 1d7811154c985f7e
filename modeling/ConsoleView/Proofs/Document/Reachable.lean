/-
# ConsoleView.Proofs.Document.Reachable -- the documents that calls lead to

Whatever is called on a new document, its links make a forest, and the nodes
without a parent are the root and those that a replacement has taken out
(`parentless_run_iff`).  `run_opened_is_forest` collects what follows for the
walks: they end, they stay among the nodes, and they visit each node of a
subtree once.
-/
import ConsoleView.Proofs.Document.Run
import ConsoleView.Proofs.Document.Walk
import Mathlib.Data.List.Induction

namespace ConsoleView

set_option autoImplicit false

/-- A call succeeds and gives a text children. -/
def Call.AddsToText (d : Document) (c : Call) : Prop :=
  c.Succeeds d ∧ ∃ p, c.target? d = some p ∧ d.isText p

namespace Document

/-- A replacement that succeeded has taken the node out. -/
def Detached (d : Document) (calls : List Call) (n : Nat) : Prop :=
  d.Happened (fun e c => c.replaced? = some n ∧ c.Succeeds e) calls

theorem parentless_withRoot (tag : String) (n : Nat) :
    n < (withRoot tag).size ∧ (withRoot tag).parent? n = none ↔ n = root := by
  have single : (withRoot tag).size = 1 := rfl
  constructor
  · rintro ⟨inside, -⟩
    show n = 0
    omega
  · rintro rfl
    exact ⟨by rw [single]; exact Nat.one_pos, rfl⟩

/-- **The nodes without a parent are the root and those that were replaced.** -/
theorem parentless_run_iff (tag : String) (attributes : List String) (calls : List Call) (n : Nat) :
    n < ((opened tag attributes).run calls).size ∧
        ((opened tag attributes).run calls).parent? n = none ↔
      n = root ∨ (opened tag attributes).Detached calls n := by
  induction calls using List.reverseRecOn with
  | nil =>
      have none_yet : ¬ (opened tag attributes).Detached [] n := not_happened_nil
      have start := parentless_withRoot tag n
      simp only [size, parent?] at start
      simp only [run, List.foldl_nil, size, parent?, nodes_opened, none_yet, or_false]
      exact start
  | append_singleton calls c ih =>
      have forest := forest_run_opened tag attributes calls
      rw [Detached, happened_concat, run_concat]
      rw [Detached] at ih
      by_cases succeeds : c.Succeeds ((opened tag attributes).run calls)
      · obtain ⟨d', result, done⟩ := succeeds
        have now : c.Succeeds ((opened tag attributes).run calls) := ⟨d', result, done⟩
        rw [Call.after_of_ok done]
        rcases forest.perform_cases done with ⟨m, scope, rfl, same⟩ | ⟨p, m, i, k, -, spliced, cut⟩
        · simp only [Call.replaced?, reduceCtorEq, false_and, or_false, size, parent?, same]
          exact ih
        · rw [forest.parentless_spliced spliced, cut, ih, Option.mem_toList, or_assoc]
          simp only [now, and_true]
      · rw [Call.after_of_error succeeds, ih]
        simp only [succeeds, and_false, or_false]

/-- **Texts are without children exactly as long as no call gives one children.**  A text that has
children keeps at least one, whatever is called. -/
theorem textsBare_run_iff (tag : String) (attributes : List String) (calls : List Call) :
    ((opened tag attributes).run calls).TextsBare ↔
      ¬ (opened tag attributes).Happened Call.AddsToText calls := by
  induction calls using List.reverseRecOn with
  | nil =>
      refine iff_of_true (fun n _ => ?_) not_happened_nil
      rw [run, List.foldl_nil, children, nodes_opened]
      exact Forest.children_withRoot tag n
  | append_singleton calls c ih =>
      have forest := forest_run_opened tag attributes calls
      rw [happened_concat, run_concat, not_or, ← ih]
      by_cases succeeds : c.Succeeds ((opened tag attributes).run calls)
      · obtain ⟨d', result, done⟩ := succeeds
        have now : c.Succeeds ((opened tag attributes).run calls) := ⟨d', result, done⟩
        rw [Call.after_of_ok done]
        rcases forest.perform_cases done with ⟨m, scope, rfl, same⟩ | ⟨p, m, i, k, target, spliced, -⟩
        · simp only [Call.AddsToText, Call.target?, reduceCtorEq, false_and, exists_false, and_false,
            not_false_eq_true, and_true, TextsBare, Document.isText, content?, children, same]
        · rw [Forest.textsBare_spliced_iff spliced]
          simp [Call.AddsToText, now, target]
      · rw [Call.after_of_error succeeds]
        simp only [Call.AddsToText, succeeds, false_and, not_false_eq_true, and_true]

/-- **Every reachable document is a forest, and its walks are total.**  The links are stored twice
and agree; a child stands behind its parent; the nodes without a parent are the root and those taken
out by a replacement.  So going down ends, both walks satisfy their recursive equations at every
node, no node they come to is missing, and a walk visits each node of a subtree once. -/
theorem run_opened_is_forest (tag : String) (attributes : List String) (calls : List Call) :
    let d := (opened tag attributes).run calls
    (∀ p c : Nat, c ∈ d.children p → c < d.size) ∧
    (∀ p c : Nat, c ∈ d.children p ↔ d.parent? c = some p) ∧
    (∀ p : Nat, (d.children p).Nodup) ∧
    (∀ p q c : Nat, c ∈ d.children p → c ∈ d.children q → p = q) ∧
    (∀ p c : Nat, c ∈ d.children p → p < c) ∧
    (∀ n < d.size, d.parent? n = none ↔
      n = root ∨ (opened tag attributes).Detached calls n) ∧
    (∀ n, (opened tag attributes).Detached calls n → n < d.size) ∧
    (WellFounded fun c p : Nat => c ∈ d.children p) ∧
    (∀ n, d.toMarkup n = (d.content? n).map fun content =>
      content.tree ((d.children n).filterMap d.toMarkup)) ∧
    (∀ n, d.subtree n = n :: (d.children n).flatMap d.subtree) ∧
    (∀ n < d.size, (d.toMarkup n).isSome ∧ ∀ x ∈ d.subtree n, x < d.size) ∧
    (∀ n, (d.subtree n).Nodup ∧ ∀ x, x ∈ d.subtree n ↔
      Relation.ReflTransGen (fun p c : Nat => c ∈ d.children p) n x) := by
  intro d
  have forest : d.Forest := forest_run_opened tag attributes calls
  have parentless : ∀ n, n < d.size ∧ d.parent? n = none ↔
      n = root ∨ (opened tag attributes).Detached calls n :=
    parentless_run_iff tag attributes calls
  refine ⟨fun p c => forest.child_lt, fun p c => forest.mem_children_iff, forest.distinct,
    fun p q c => forest.parent_unique, forest.later, fun n inside => ?_, fun n detached => ?_,
    forest.descent, forest.toMarkup_eq, forest.subtree_eq, fun n inside => ?_, fun n => ?_⟩
  · rw [← parentless n]
    exact (and_iff_right inside).symm
  · exact ((parentless n).2 (Or.inr detached)).1
  · exact ⟨forest.toMarkup_isSome_iff.2 inside, fun x => forest.lt_of_mem_subtree inside⟩
  · exact ⟨forest.nodup_subtree n, fun x => forest.mem_subtree_iff_reaches⟩

end Document

end ConsoleView
