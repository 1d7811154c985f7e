/-
# ConsoleView.Proofs.GroupVisibility.Search -- open groups as a plain list

`PlainVisibility` is a list and nothing else: a seed is sorted and freed of
repetitions, an index is looked for by halving a window, and put in or taken out
at the place where the search ends.  All of that is right only as long as the
list is strictly ascending, and no more than the operations keeps it so.

A search in an ascending list ends where the index is or belongs
(`endsRight_bisect`).  So each operation does to the list what the operation of
`GroupVisibility`, whose type has the order, does to its list.
-/
import ConsoleView.Component.GroupVisibility
import Mathlib.Data.List.Nodup
import Mathlib.Data.List.Sort

namespace ConsoleView

set_option autoImplicit false

/-! ## Searching -/

/-- The end of a search: the place of the index, or else the place where it belongs. -/
inductive SearchEnd where
  | found (place : Nat)
  | missing (place : Nat)
deriving DecidableEq

/-- Halve the window from `low` to `high` until the index is met or the window is empty. -/
def bisectIn (xs : List Nat) (i low high : Nat) (fits : high ≤ xs.length) : SearchEnd :=
  if room : low < high then
    let middle := low + (high - low) / 2
    have inside : middle < xs.length := by omega
    if xs[middle] = i then .found middle
    else if xs[middle] < i then bisectIn xs i (middle + 1) high fits
    else bisectIn xs i low middle (by omega)
  else .missing low
termination_by high - low

def bisect (xs : List Nat) (i : Nat) : SearchEnd := bisectIn xs i 0 xs.length (Nat.le_refl _)

/-- The index is at the place that was found, or belongs at the place where it is missing. -/
def SearchEnd.EndsRight (xs : List Nat) (i : Nat) : SearchEnd → Prop
  | found place => xs[place]? = some i
  | missing place =>
      place ≤ xs.length ∧ (∀ x ∈ xs.take place, x < i) ∧ ∀ x ∈ xs.drop place, i < x

section Search

variable {xs : List Nat} {i : Nat}

theorem lt_of_mem_take (asc : xs.Pairwise (· < ·)) {place x : Nat} (inside : place < xs.length)
    (small : xs[place] < i) (member : x ∈ xs.take (place + 1)) : x < i := by
  obtain ⟨j, low, rfl⟩ := List.mem_take_iff_getElem.1 member
  have bound : j ≤ place := by omega
  rcases Nat.lt_or_eq_of_le bound with earlier | rfl
  · exact Nat.lt_trans (List.pairwise_iff_getElem.1 asc j place _ inside earlier) small
  · exact small

theorem lt_of_mem_drop (asc : xs.Pairwise (· < ·)) {place x : Nat} (inside : place < xs.length)
    (great : i < xs[place]) (member : x ∈ xs.drop place) : i < x := by
  obtain ⟨j, high, rfl⟩ := List.mem_drop_iff_getElem.1 member
  rcases Nat.eq_zero_or_pos j with rfl | later
  · exact great
  · have bound : place + j < xs.length := by omega
    have order := List.pairwise_iff_getElem.1 asc place (place + j) inside bound (by omega)
    exact Nat.lt_trans great order

/-- What is before the window is below the index, and what is behind it above. -/
theorem endsRight_bisectIn (asc : xs.Pairwise (· < ·)) {low high : Nat} (fits : high ≤ xs.length)
    (window : low ≤ high) (below : ∀ x ∈ xs.take low, x < i) (above : ∀ x ∈ xs.drop high, i < x) :
    (bisectIn xs i low high fits).EndsRight xs i := by
  fun_induction bisectIn xs i low high fits with
  | case1 low high fits room middle inside same =>
      show xs[middle]? = some i
      rw [List.getElem?_eq_getElem inside, same]
  | case2 low high fits room middle inside other small ih =>
      have bound : middle = low + (high - low) / 2 := rfl
      exact ih (by omega) (fun x => lt_of_mem_take asc inside small) above
  | case3 low high fits room middle inside other notSmall ih =>
      have bound : middle = low + (high - low) / 2 := rfl
      exact ih (by omega) below fun x => lt_of_mem_drop asc inside (by omega)
  | case4 low high fits empty =>
      obtain rfl : low = high := by omega
      exact ⟨fits, below, above⟩

/-- **A search in an ascending list ends where the index is or belongs.** -/
theorem endsRight_bisect (asc : xs.Pairwise (· < ·)) (i : Nat) :
    (bisect xs i).EndsRight xs i :=
  endsRight_bisectIn asc (Nat.le_refl _) (Nat.zero_le _) (by simp) (by simp)

end Search

/-! ## Toggling -/

theorem insertIdx_length_append (front back : List Nat) (i : Nat) :
    (front ++ back).insertIdx front.length i = front ++ i :: back := by
  induction front with
  | nil => rfl
  | cons x front ih =>
      rw [List.cons_append, List.length_cons, List.insertIdx_succ_cons, ih, List.cons_append]

/-- An index that is there is taken out, wherever it stands. -/
theorem toggleIn_append_of_mem {front : List Nat} {i : Nat} (back : List Nat)
    (below : ∀ x ∈ front, x < i) : toggleIn i (front ++ i :: back) = front ++ back := by
  induction front with
  | nil => simp [toggleIn]
  | cons x front ih =>
      have small : x < i := below x List.mem_cons_self
      have rest := ih fun y member => below y (List.mem_cons_of_mem _ member)
      simp only [List.cons_append, toggleIn, rest, if_neg (Nat.lt_asymm small),
        if_neg (Nat.ne_of_lt small)]

/-- An index that is missing is put in where it belongs. -/
theorem toggleIn_append_of_not_mem {front back : List Nat} {i : Nat}
    (below : ∀ x ∈ front, x < i) (above : ∀ x ∈ back, i < x) :
    toggleIn i (front ++ back) = front ++ i :: back := by
  induction front with
  | nil =>
      cases back with
      | nil => rfl
      | cons x back =>
          have great : i < x := above x List.mem_cons_self
          simp only [List.nil_append, toggleIn, if_pos great]
  | cons x front ih =>
      have small : x < i := below x List.mem_cons_self
      have rest := ih fun y member => below y (List.mem_cons_of_mem _ member)
      simp only [List.cons_append, toggleIn, rest, if_neg (Nat.lt_asymm small),
        if_neg (Nat.ne_of_lt small)]

/-! ## Seeds -/

/-- Of items that stand one behind the other and are equal, keep one. -/
def dropRepeats : List Nat → List Nat
  | [] => []
  | [x] => [x]
  | x :: y :: rest => if x = y then dropRepeats (y :: rest) else x :: dropRepeats (y :: rest)

theorem mem_dropRepeats {i : Nat} (xs : List Nat) : i ∈ dropRepeats xs ↔ i ∈ xs := by
  fun_induction dropRepeats xs with
  | case1 => rfl
  | case2 x => rfl
  | case3 y rest ih => simp [ih]
  | case4 x y rest ne ih => rw [List.mem_cons, ih, ← List.mem_cons]

/-- In order, equal items stand one behind the other. -/
theorem ascending_dropRepeats {xs : List Nat} (sorted : xs.Pairwise (· ≤ ·)) :
    (dropRepeats xs).Pairwise (· < ·) := by
  fun_induction dropRepeats xs with
  | case1 => exact List.Pairwise.nil
  | case2 x => exact List.pairwise_singleton _ x
  | case3 y rest ih => exact ih (List.pairwise_cons.1 sorted).2
  | case4 x y rest ne ih =>
      obtain ⟨least, rest_sorted⟩ := List.pairwise_cons.1 sorted
      refine List.pairwise_cons.2 ⟨fun z member => ?_, ih rest_sorted⟩
      have first : x ≤ y := least y List.mem_cons_self
      have later : y ≤ z := by
        rcases List.mem_cons.1 ((mem_dropRepeats _).1 member) with rfl | tail
        · exact Nat.le_refl _
        · exact (List.pairwise_cons.1 rest_sorted).1 z tail
      omega

/-- Ascending lists are the same if they have the same items. -/
theorem ascending_ext {xs ys : List Nat} (ascending : xs.Pairwise (· < ·))
    (ascending' : ys.Pairwise (· < ·)) (same : ∀ i, i ∈ xs ↔ i ∈ ys) : xs = ys := by
  have distinct : xs.Nodup := ascending.imp Nat.ne_of_lt
  have distinct' : ys.Nodup := ascending'.imp Nat.ne_of_lt
  have perm := (List.perm_ext_iff_of_nodup distinct distinct').2 same
  exact perm.eq_of_pairwise (fun a b _ _ up down => absurd up (Nat.lt_asymm down)) ascending
    ascending'

/-! ## Plain lists -/

/-- The open groups as a plain list. -/
structure PlainVisibility where
  visible : List Nat
deriving DecidableEq

namespace PlainVisibility

def closed : PlainVisibility := ⟨[]⟩

/-- Sort the indices the host gives and drop repetitions, or start with none. -/
def seeded (initial : Option (List Nat)) : PlainVisibility :=
  ⟨dropRepeats ((initial.getD []).mergeSort (· ≤ ·))⟩

/-- Take the index out where a search finds it, or put it in where it is missing. -/
def toggle (p : PlainVisibility) (i : Nat) : PlainVisibility :=
  match bisect p.visible i with
  | .found place => ⟨p.visible.eraseIdx place⟩
  | .missing place => ⟨p.visible.insertIdx place i⟩

def showAll (count : Nat) : PlainVisibility := ⟨List.range count⟩

def isVisible (p : PlainVisibility) (i : Nat) : Bool :=
  match bisect p.visible i with
  | .found _ => true
  | .missing _ => false

def size (p : PlainVisibility) : Nat := p.visible.length

end PlainVisibility

namespace GroupVisibility

def plain (v : GroupVisibility) : PlainVisibility := ⟨v.visible⟩

theorem ascending_seed (initial : Option (List Nat)) :
    (PlainVisibility.seeded initial).visible.Pairwise (· < ·) := by
  have sorted := List.pairwise_mergeSort' (· ≤ ·) (initial.getD [])
  exact ascending_dropRepeats sorted

/-- **Sorting a seed opens the groups it names.** -/
theorem plain_seeded (initial : Option (List Nat)) :
    (seeded initial).plain = PlainVisibility.seeded initial := by
  refine congrArg PlainVisibility.mk (ascending_ext (seeded initial).ascending
    (ascending_seed initial) fun i => ?_)
  have named : i ∈ (seeded initial).visible ↔ i ∈ initial.getD [] := by
    cases initial with
    | none => rfl
    | some values => exact mem_visible_seeded
  rw [named]
  exact ((mem_dropRepeats _).trans List.mem_mergeSort).symm

/-- **Toggling at the place where a search ends toggles the index.** -/
theorem plain_toggle (v : GroupVisibility) (i : Nat) :
    (v.toggle i).plain = v.plain.toggle i := by
  have right := endsRight_bisect v.ascending i
  rw [PlainVisibility.toggle, plain, plain]
  cases ended : bisect v.visible i with
  | found place =>
      rw [ended] at right
      obtain ⟨inside, here⟩ := List.getElem?_eq_some_iff.1 right
      have whole : v.visible = v.visible.take place ++ i :: v.visible.drop (place + 1) := by
        rw [← here, ← List.drop_eq_getElem_cons inside, List.take_append_drop]
      have order := v.ascending
      rw [whole] at order
      have below : ∀ x ∈ v.visible.take place, x < i := fun x member =>
        (List.pairwise_append.1 order).2.2 x member i List.mem_cons_self
      show PlainVisibility.mk (toggleIn i v.visible) = ⟨v.visible.eraseIdx place⟩
      rw [List.eraseIdx_eq_take_drop_succ]
      conv_lhs => rw [whole]
      rw [toggleIn_append_of_mem _ below]
  | missing place =>
      rw [ended] at right
      obtain ⟨fits, below, above⟩ := right
      have front : (v.visible.take place).length = place := List.length_take_of_le fits
      have toggled := toggleIn_append_of_not_mem below above
      have inserted := insertIdx_length_append (v.visible.take place) (v.visible.drop place) i
      rw [front] at inserted
      rw [List.take_append_drop] at toggled inserted
      show PlainVisibility.mk (toggleIn i v.visible) = ⟨v.visible.insertIdx place i⟩
      rw [toggled, inserted]

/-- **A search finds the indices that are there.** -/
theorem plain_isVisible (v : GroupVisibility) (i : Nat) :
    v.plain.isVisible i = v.isVisible i := by
  have right := endsRight_bisect v.ascending i
  rw [PlainVisibility.isVisible, plain]
  cases ended : bisect v.visible i with
  | found place =>
      rw [ended] at right
      exact (isVisible_iff.2 (List.mem_of_getElem? right)).symm
  | missing place =>
      rw [ended] at right
      obtain ⟨-, below, above⟩ := right
      have absent : i ∉ v.visible := by
        rw [← List.take_append_drop place v.visible, List.mem_append]
        rintro (early | late)
        · exact Nat.lt_irrefl _ (below i early)
        · exact Nat.lt_irrefl _ (above i late)
      show false = v.isVisible i
      rw [← isVisible_iff, Bool.not_eq_true] at absent
      exact absent.symm

end GroupVisibility

end ConsoleView
