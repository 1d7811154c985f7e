/-
# ConsoleView.Proofs.GroupVisibility.Run -- which groups are open after some interactions

An interaction toggles one group or sets all of them (`Interaction.perform_cases`),
directly or through a summary that is bound to the groups of the moment.  What is
open is therefore the set that was set last, changed at the indices that have
been toggled an odd number of times since (`mem_visible_run`).  The plain list
that is searched by halving is that of the interactions at every point
(`plain_run`), so `run_visible` says both of it.
-/
import ConsoleView.Proofs.GroupVisibility.Search
import ConsoleView.Records.Updates
import Mathlib.Data.List.DropRight
import Mathlib.Data.List.Induction
import Mathlib.Data.Set.Card
import Mathlib.Algebra.Ring.Parity

namespace ConsoleView

set_option autoImplicit false

/-! ## Interactions -/

/-- The groups of a host, bound to a view's visibility for one interaction. -/
structure GroupSummary where
  groups : List ConfigGroup
  visibility : GroupVisibility

namespace GroupSummary

def toggleVisible (s : GroupSummary) (i : Nat) : GroupSummary :=
  { s with visibility := s.visibility.toggle i }

def showAllGroups (s : GroupSummary) : GroupSummary :=
  { s with visibility := .showAll s.groups.length }

def hideAllGroups (s : GroupSummary) : GroupSummary := { s with visibility := .closed }

end GroupSummary

/-- What can be done to a visibility, directly or through a summary bound to some groups. -/
inductive Interaction where
  | toggle (i : Nat)
  | showAll (count : Nat)
  | hideAll
  | toggleVisible (groups : List ConfigGroup) (i : Nat)
  | showAllGroups (groups : List ConfigGroup)
  | hideAllGroups (groups : List ConfigGroup)

namespace Interaction

def perform (v : GroupVisibility) : Interaction → GroupVisibility
  | toggle i => v.toggle i
  | showAll count => .showAll count
  | hideAll => .closed
  | toggleVisible groups i => (GroupSummary.toggleVisible ⟨groups, v⟩ i).visibility
  | showAllGroups groups => (GroupSummary.showAllGroups ⟨groups, v⟩).visibility
  | hideAllGroups groups => (GroupSummary.hideAllGroups ⟨groups, v⟩).visibility

def performPlain (p : PlainVisibility) : Interaction → PlainVisibility
  | toggle i | toggleVisible _ i => p.toggle i
  | showAll count => .showAll count
  | showAllGroups groups => .showAll groups.length
  | hideAll | hideAllGroups _ => .closed

/-- The set that an interaction sets the open groups to. -/
def sets? : Interaction → Option (Finset Nat)
  | showAll count => some (Finset.range count)
  | showAllGroups groups => some (Finset.range groups.length)
  | hideAll | hideAllGroups _ => some ∅
  | toggle _ | toggleVisible _ _ => none

def toggled? : Interaction → Option Nat
  | toggle i | toggleVisible _ i => some i
  | _ => none

/-- **What an interaction does**: it sets all groups, or it toggles one. -/
theorem perform_cases (v : GroupVisibility) (c : Interaction) :
    (∃ base, c.sets? = some base ∧ ∀ i, i ∈ (c.perform v).visible ↔ i ∈ base) ∨
      ∃ j, c.sets? = none ∧ c.toggled? = some j ∧ c.perform v = v.toggle j := by
  cases c with
  | toggle j => exact Or.inr ⟨j, rfl, rfl, rfl⟩
  | toggleVisible groups j => exact Or.inr ⟨j, rfl, rfl, rfl⟩
  | showAll count =>
      exact Or.inl ⟨_, rfl, fun i => by simp [perform, GroupVisibility.showAll]⟩
  | showAllGroups groups =>
      refine Or.inl ⟨_, rfl, fun i => ?_⟩
      simp [perform, GroupSummary.showAllGroups, GroupVisibility.showAll]
  | hideAll => exact Or.inl ⟨_, rfl, fun i => by simp [perform, GroupVisibility.closed]⟩
  | hideAllGroups groups =>
      refine Or.inl ⟨_, rfl, fun i => ?_⟩
      simp [perform, GroupSummary.hideAllGroups, GroupVisibility.closed]

theorem plain_perform (v : GroupVisibility) (c : Interaction) :
    (c.perform v).plain = c.performPlain v.plain := by
  cases c with
  | toggle i => exact v.plain_toggle i
  | toggleVisible groups i => exact v.plain_toggle i
  | showAll count => rfl
  | showAllGroups groups => rfl
  | hideAll => rfl
  | hideAllGroups groups => rfl

end Interaction

/-! ## Runs -/

inductive Opening where
  | new
  | seeded (initial : Option (List Nat))

namespace Opening

def visibility : Opening → GroupVisibility
  | new => .closed
  | seeded initial => .seeded initial

def plain : Opening → PlainVisibility
  | new => .closed
  | seeded initial => .seeded initial

def values : Opening → Finset Nat
  | new => ∅
  | seeded initial => (initial.getD []).toFinset

theorem mem_visible {o : Opening} {i : Nat} : i ∈ o.visibility.visible ↔ i ∈ o.values := by
  cases o with
  | new => simp [visibility, values, GroupVisibility.closed]
  | seeded initial =>
      rw [values, List.mem_toFinset]
      cases initial with
      | none => rfl
      | some named => exact GroupVisibility.mem_visible_seeded

theorem plain_visibility (o : Opening) : o.visibility.plain = o.plain := by
  cases o with
  | new => rfl
  | seeded initial => exact GroupVisibility.plain_seeded initial

def run (o : Opening) (steps : List Interaction) : GroupVisibility :=
  steps.foldl Interaction.perform o.visibility

def runPlain (o : Opening) (steps : List Interaction) : PlainVisibility :=
  steps.foldl Interaction.performPlain o.plain

theorem run_concat (o : Opening) (steps : List Interaction) (c : Interaction) :
    o.run (steps ++ [c]) = c.perform (o.run steps) :=
  List.foldl_concat _ _ _ _

theorem runPlain_concat (o : Opening) (steps : List Interaction) (c : Interaction) :
    o.runPlain (steps ++ [c]) = c.performPlain (o.runPlain steps) :=
  List.foldl_concat _ _ _ _

/-- The set that was set last, at first the indices that are named. -/
def base (o : Opening) (steps : List Interaction) : Finset Nat :=
  (steps.filterMap Interaction.sets?).getLast?.getD o.values

/-- How often an index was toggled since all groups were set. -/
def toggles (steps : List Interaction) (i : Nat) : Nat :=
  ((steps.rtakeWhile fun c => c.sets?.isNone).filterMap Interaction.toggled?).count i

/-- An index is in the base and was toggled an even number of times since, or is not and was toggled
an odd number of times. -/
def Opens (o : Opening) (steps : List Interaction) (i : Nat) : Prop :=
  Xor (i ∈ o.base steps) (Odd (toggles steps i))

section Steps

variable (o : Opening) (steps : List Interaction) {c : Interaction} (i : Nat)

/-- After all groups have been set, only the set counts. -/
theorem opens_concat_of_sets {base : Finset Nat} (sets : c.sets? = some base) :
    o.Opens (steps ++ [c]) i ↔ i ∈ base := by
  have fresh : (steps ++ [c]).rtakeWhile (fun c => c.sets?.isNone) = [] :=
    List.rtakeWhile_concat_neg _ _ c (by simp [sets])
  have lastBase : o.base (steps ++ [c]) = base := by simp [Opening.base, sets]
  have untouched : ¬ Odd (toggles (steps ++ [c]) i) := by simp [toggles, fresh]
  rw [Opens, lastBase]
  simp only [Xor, untouched, not_false_eq_true, and_true, false_and, or_false]

/-- A toggle changes one index. -/
theorem opens_concat_of_toggles {j : Nat} (noSet : c.sets? = none) (toggled : c.toggled? = some j) :
    o.Opens (steps ++ [c]) i ↔ if i = j then ¬ o.Opens steps i else o.Opens steps i := by
  have later : (steps ++ [c]).rtakeWhile (fun c => c.sets?.isNone) =
      steps.rtakeWhile (fun c => c.sets?.isNone) ++ [c] :=
    List.rtakeWhile_concat_pos _ _ c (by simp [noSet])
  have sameBase : o.base (steps ++ [c]) = o.base steps := by
    simp [Opening.base, List.filterMap_append, noSet]
  have count : toggles (steps ++ [c]) i = toggles steps i + if i = j then 1 else 0 := by
    have lastToggle : [c].filterMap Interaction.toggled? = [j] := by simp [toggled]
    rw [toggles, later, List.filterMap_append, List.count_append, ← toggles, lastToggle]
    by_cases same : i = j
    · simp [same]
    · simp [same, Ne.symm same]
  rw [Opens, Opens, sameBase, count]
  split
  · rw [Nat.odd_add_one]
    simp only [Xor]
    tauto
  · rfl

end Steps

/-- **What is open is the base, changed at what was toggled an odd number of times since.** -/
theorem mem_visible_run (o : Opening) (steps : List Interaction) (i : Nat) :
    i ∈ (o.run steps).visible ↔ o.Opens steps i := by
  induction steps using List.reverseRecOn with
  | nil =>
      have untouched : ¬ Odd (toggles [] i) := by simp [toggles]
      show i ∈ o.visibility.visible ↔ Xor (i ∈ o.values) (Odd (toggles [] i))
      rw [mem_visible]
      simp only [Xor, untouched, not_false_eq_true, and_true, false_and, or_false]
  | append_singleton steps c ih =>
      rw [run_concat]
      rcases c.perform_cases (o.run steps) with ⟨base, sets, opened⟩ | ⟨j, noSet, toggled, done⟩
      · rw [opened, o.opens_concat_of_sets steps i sets]
      · rw [done, GroupVisibility.mem_visible_toggle, o.opens_concat_of_toggles steps i noSet toggled,
          ih]

/-- **The plain list is that of the open groups at every point.** -/
theorem plain_run (o : Opening) (steps : List Interaction) :
    (o.run steps).plain = o.runPlain steps := by
  induction steps using List.reverseRecOn with
  | nil => exact o.plain_visibility
  | append_singleton steps c ih => rw [run_concat, runPlain_concat, Interaction.plain_perform, ih]

/-- **Which groups are open at every point of a run.**  However a view gets its visibility and
whatever is done to it, directly or through a summary of any groups: the list that is sorted once
and then searched by halving is the list of the open groups, strictly ascending; a search finds
exactly the indices in it; an index is in it exactly if it is in the set that was set last, or named
at first, and was toggled an even number of times since, or is not and was toggled an odd number of
times; and the list has as many items as there are such indices. -/
theorem run_visible (o : Opening) (steps : List Interaction) :
    let v := o.run steps
    let p := o.runPlain steps
    p.visible = v.visible ∧
    p.visible.Pairwise (· < ·) ∧
    (∀ i, (p.isVisible i = true ↔ i ∈ p.visible) ∧ (v.isVisible i = true ↔ i ∈ v.visible) ∧
      (i ∈ p.visible ↔ Xor (i ∈ o.base steps) (Odd (toggles steps i)))) ∧
    p.size = Set.ncard {i | Xor (i ∈ o.base steps) (Odd (toggles steps i))} ∧
    v.size = p.size := by
  intro v p
  have same : v.plain = p := o.plain_run steps
  have visible : p.visible = v.visible := by rw [← same]; rfl
  have open_iff : ∀ i, i ∈ p.visible ↔ Xor (i ∈ o.base steps) (Odd (toggles steps i)) := by
    intro i
    rw [visible]
    exact o.mem_visible_run steps i
  have ascending : p.visible.Pairwise (· < ·) := by rw [visible]; exact v.ascending
  refine ⟨visible, ascending, fun i => ⟨?_, GroupVisibility.isVisible_iff, open_iff i⟩, ?_, ?_⟩
  · rw [← same, v.plain_isVisible, GroupVisibility.isVisible_iff]
    rfl
  · have set : {i | Xor (i ∈ o.base steps) (Odd (toggles steps i))} = ↑p.visible.toFinset := by
      ext i
      rw [Finset.mem_coe, List.mem_toFinset, open_iff]
      rfl
    have distinct : p.visible.Nodup := ascending.imp Nat.ne_of_lt
    rw [set, Set.ncard_coe_finset, List.toFinset_card_of_nodup distinct]
    rfl
  · rw [GroupVisibility.size, PlainVisibility.size, visible]

end Opening

end ConsoleView
