/-
# ConsoleView.Component.GroupVisibility -- which groups are open

The open groups are a set of indices, kept as a strictly ascending list.  The
order is part of the type, so a search stops at the first index that is not
below the one looked for.
-/

namespace ConsoleView

set_option autoImplicit false

/-- Put an index into an ascending list, or take it out if it is there. -/
def toggleIn (i : Nat) : List Nat → List Nat
  | [] => [i]
  | x :: xs => if i < x then i :: x :: xs else if x = i then xs else x :: toggleIn i xs

/-- Put an index into an ascending list that may have it. -/
def addTo (i : Nat) : List Nat → List Nat
  | [] => [i]
  | x :: xs => if i < x then i :: x :: xs else if x = i then x :: xs else x :: addTo i xs

theorem mem_addTo {i j : Nat} {xs : List Nat} : j ∈ addTo i xs ↔ j = i ∨ j ∈ xs := by
  induction xs with
  | nil => simp [addTo]
  | cons x xs ih =>
      simp only [addTo]
      split
      · simp
      · split
        · rename_i eq
          subst eq
          simp
        · rw [List.mem_cons, ih, List.mem_cons]
          exact or_left_comm

theorem ascending_addTo (i : Nat) {xs : List Nat} (asc : xs.Pairwise (· < ·)) :
    (addTo i xs).Pairwise (· < ·) := by
  induction xs with
  | nil => simp [addTo]
  | cons x xs ih =>
      obtain ⟨below, rest⟩ := List.pairwise_cons.1 asc
      simp only [addTo]
      split
      · rename_i lt
        refine List.pairwise_cons.2 ⟨fun j mem => ?_, asc⟩
        rcases List.mem_cons.1 mem with rfl | mem
        · exact lt
        · exact Nat.lt_trans lt (below j mem)
      · split
        · exact asc
        · refine List.pairwise_cons.2 ⟨fun j mem => ?_, ih rest⟩
          rcases mem_addTo.1 mem with rfl | mem
          · omega
          · exact below j mem

/-- In an ascending list an index is toggled: it is in exactly if it was out. -/
theorem mem_toggleIn {i j : Nat} {xs : List Nat} (asc : xs.Pairwise (· < ·)) :
    j ∈ toggleIn i xs ↔ if j = i then j ∉ xs else j ∈ xs := by
  induction xs with
  | nil => by_cases h : j = i <;> simp [toggleIn, h]
  | cons x xs ih =>
      obtain ⟨below, rest⟩ := List.pairwise_cons.1 asc
      have notBelow : ∀ y ∈ xs, x < y := below
      simp only [toggleIn]
      split
      · rename_i lt
        by_cases h : j = i
        · subst h
          have out : j ∉ xs := fun mem => by have := below j mem; omega
          simp [out, Nat.ne_of_lt lt]
        · simp [h]
      · split
        · rename_i eq
          subst eq
          by_cases h : j = x
          · subst h
            have out : j ∉ xs := fun mem => by have := below j mem; omega
            simp [out]
          · simp [h]
        · rename_i ne
          rw [List.mem_cons, ih rest]
          by_cases h : j = i
          · subst h
            simp [Ne.symm ne]
          · simp [h]

theorem ascending_toggleIn (i : Nat) {xs : List Nat} (asc : xs.Pairwise (· < ·)) :
    (toggleIn i xs).Pairwise (· < ·) := by
  induction xs with
  | nil => simp [toggleIn]
  | cons x xs ih =>
      obtain ⟨below, rest⟩ := List.pairwise_cons.1 asc
      simp only [toggleIn]
      split
      · rename_i lt
        refine List.pairwise_cons.2 ⟨fun j mem => ?_, asc⟩
        rcases List.mem_cons.1 mem with rfl | mem
        · exact lt
        · exact Nat.lt_trans lt (below j mem)
      · split
        · exact rest
        · rename_i ne
          refine List.pairwise_cons.2 ⟨fun j mem => ?_, ih rest⟩
          have := (mem_toggleIn rest).1 mem
          split at this
          · omega
          · exact below j this

/-- The indices of the open groups. -/
structure GroupVisibility where
  visible : List Nat := []
  ascending : visible.Pairwise (· < ·) := by exact List.Pairwise.nil
deriving DecidableEq

namespace GroupVisibility

def closed : GroupVisibility := {}

def add (v : GroupVisibility) (i : Nat) : GroupVisibility :=
  ⟨addTo i v.visible, ascending_addTo i v.ascending⟩

/-- Start with the indices the host gives, in any order and number, or with none. -/
def seeded (initial : Option (List Nat)) : GroupVisibility :=
  (initial.getD []).foldl add closed

/-- Close the group if it is open, else open it. -/
def toggle (v : GroupVisibility) (i : Nat) : GroupVisibility :=
  ⟨toggleIn i v.visible, ascending_toggleIn i v.ascending⟩

/-- Open the first `count` groups and no other. -/
def showAll (count : Nat) : GroupVisibility := ⟨List.range count, List.pairwise_lt_range⟩

def isVisible (v : GroupVisibility) (i : Nat) : Bool := v.visible.contains i

def size (v : GroupVisibility) : Nat := v.visible.length

def isEmpty (v : GroupVisibility) : Bool := v.visible.isEmpty

theorem isVisible_iff {v : GroupVisibility} {i : Nat} : v.isVisible i = true ↔ i ∈ v.visible := by
  simp [isVisible]

theorem mem_visible_toggle {v : GroupVisibility} {i j : Nat} :
    j ∈ (v.toggle i).visible ↔ if j = i then j ∉ v.visible else j ∈ v.visible :=
  mem_toggleIn v.ascending

/-- A seed opens the groups it names. -/
theorem mem_visible_seeded {initial : List Nat} {i : Nat} :
    i ∈ (seeded (some initial)).visible ↔ i ∈ initial := by
  suffices h : ∀ (v : GroupVisibility), i ∈ (initial.foldl add v).visible ↔
      i ∈ v.visible ∨ i ∈ initial from (h closed).trans (by simp [closed])
  intro v
  induction initial generalizing v with
  | nil => simp
  | cons x xs ih =>
      rw [List.foldl_cons, ih, add, mem_addTo, List.mem_cons]
      constructor
      · rintro ((rfl | h) | h) <;> simp [*]
      · rintro (h | rfl | h) <;> simp [*]

end GroupVisibility

end ConsoleView
