/-
# ConsoleView.Markup.Attributes -- attributes in order of first appearance

A list of attributes never holds a name twice; that is part of its type.
Setting a name that is there replaces its value in place, setting a new one
puts it last.
-/

namespace ConsoleView

set_option autoImplicit false

/-- The name's value is replaced in place, or the pair is put last. -/
def setPair (name value : String) : List (String × String) → List (String × String)
  | [] => [(name, value)]
  | (n, v) :: rest => if n = name then (n, value) :: rest else (n, v) :: setPair name value rest

theorem mem_names_setPair {name value x : String} {pairs : List (String × String)} :
    x ∈ (setPair name value pairs).map Prod.fst ↔ x = name ∨ x ∈ pairs.map Prod.fst := by
  induction pairs with
  | nil => simp [setPair]
  | cons head rest ih =>
      obtain ⟨n, v⟩ := head
      by_cases h : n = name
      · subst h; simp [setPair]
      · simp only [setPair, h, if_false, List.map_cons, List.mem_cons, ih]
        exact ⟨fun h => h.elim (fun h => .inr (.inl h)) (fun h => h.imp_right .inr),
          fun h => h.elim (fun h => .inr (.inl h)) (fun h => h.imp_right .inr)⟩

theorem nodup_names_setPair (name value : String) {pairs : List (String × String)}
    (distinct : (pairs.map Prod.fst).Nodup) : ((setPair name value pairs).map Prod.fst).Nodup := by
  induction pairs with
  | nil => simp [setPair]
  | cons head rest ih =>
      obtain ⟨n, v⟩ := head
      have parts := List.nodup_cons.1 distinct
      by_cases h : n = name
      · simpa [setPair, h] using distinct
      · simp only [setPair, h, if_false, List.map_cons]
        refine List.nodup_cons.2 ⟨fun mem => ?_, ih parts.2⟩
        exact (mem_names_setPair.1 mem).elim h parts.1

/-- A new name is put last. -/
theorem setPair_of_not_mem {name value : String} {pairs : List (String × String)}
    (fresh : ∀ pair ∈ pairs, pair.1 ≠ name) :
    setPair name value pairs = pairs ++ [(name, value)] := by
  induction pairs with
  | nil => rfl
  | cons pair rest ih =>
      have ne : pair.1 ≠ name := fresh pair List.mem_cons_self
      have later := ih fun other member => fresh other (List.mem_cons_of_mem _ member)
      simp only [setPair, if_neg ne, later, List.cons_append]

/-- Attributes with distinct names. -/
structure Attributes where
  pairs : List (String × String) := []
  distinct : (pairs.map Prod.fst).Nodup := by exact List.Pairwise.nil
deriving DecidableEq

namespace Attributes

def empty : Attributes := {}

def set (attributes : Attributes) (name value : String) : Attributes :=
  ⟨setPair name value attributes.pairs, nodup_names_setPair name value attributes.distinct⟩

def get? (attributes : Attributes) (name : String) : Option String := attributes.pairs.lookup name

theorem ext_pairs {a b : Attributes} (h : a.pairs = b.pairs) : a = b := by
  cases a; cases b; cases h; rfl

/-- The value that was set is there, and the others are as they were. -/
theorem get?_set (attributes : Attributes) (name value other : String) :
    (attributes.set name value).get? other =
      if other = name then some value else attributes.get? other := by
  obtain ⟨pairs, distinct⟩ := attributes
  simp only [get?, set]
  clear distinct
  induction pairs with
  | nil =>
      by_cases h : other = name
      · simp [setPair, h]
      · simp [setPair, h, List.lookup_cons, beq_false_of_ne h]
  | cons head rest ih =>
      obtain ⟨n, v⟩ := head
      by_cases eq : n = name
      · subst eq
        by_cases h : other = n
        · simp [setPair, h]
        · simp [setPair, h, List.lookup_cons, beq_false_of_ne h]
      · by_cases h : other = n
        · subst h
          simp [setPair, eq]
        · simp [setPair, eq, List.lookup_cons, beq_false_of_ne h, ih]

end Attributes

end ConsoleView
