/-
# ConsoleView.NameMap -- finite maps from names, in ascending order of the names

`Entries` are the raw lists, as they also stand inside a JSON object or a
directory; `NameMap` is such a list together with the proof that its names
ascend strictly.  The order is that of code points.  Because the order is part
of the type, two maps with the same look-ups are the same map
(`NameMap.ext_get?`).
-/

namespace ConsoleView

set_option autoImplicit false

universe u

/-- Names paired with values. -/
abbrev Entries (α : Type u) := List (String × α)

namespace Entries

variable {α : Type u}

/-- Bind `name` to `value`: in place where it is bound, else before the first greater name. -/
def insert (name : String) (value : α) : Entries α → Entries α
  | [] => [(name, value)]
  | (k, v) :: rest =>
      if name < k then (name, value) :: (k, v) :: rest
      else if name = k then (name, value) :: rest
      else (k, v) :: insert name value rest

def get? (entries : Entries α) (name : String) : Option α := entries.lookup name

def Ascending (entries : Entries α) : Prop := (entries.map Prod.fst).Pairwise (· < ·)

theorem ascending_cons {k : String} {v : α} {rest : Entries α} :
    Ascending ((k, v) :: rest) ↔ (∀ e ∈ rest, k < e.1) ∧ Ascending rest := by
  simp [Ascending]

theorem get?_cons {k name : String} {v : α} {rest : Entries α} :
    get? ((k, v) :: rest) name = if name = k then some v else get? rest name := by
  by_cases h : name = k
  · simp [get?, h]
  · simp [get?, List.lookup_cons, h, beq_false_of_ne h]

theorem mem_insert {name : String} {value : α} {entries : Entries α} {e : String × α}
    (mem : e ∈ insert name value entries) : e = (name, value) ∨ e ∈ entries := by
  induction entries with
  | nil => simpa [insert] using mem
  | cons head rest ih =>
      obtain ⟨k, v⟩ := head
      simp only [insert] at mem
      split at mem
      · simpa using mem
      · split at mem
        · rcases List.mem_cons.1 mem with h | h
          · exact Or.inl h
          · exact Or.inr (List.mem_cons_of_mem _ h)
        · rcases List.mem_cons.1 mem with h | h
          · exact Or.inr (h ▸ List.mem_cons_self)
          · rcases ih h with h | h
            · exact Or.inl h
            · exact Or.inr (List.mem_cons_of_mem _ h)

/-- Either one name is smaller or they are equal. -/
theorem lt_of_not_lt_of_ne {a b : String} (notLt : ¬ a < b) (ne : a ≠ b) : b < a := by
  have := String.not_lt.1 notLt
  rcases Decidable.em (b < a) with h | h
  · exact h
  · exact absurd (String.le_antisymm (String.not_lt.1 h) this) ne

theorem ascending_insert (name : String) (value : α) {entries : Entries α}
    (asc : Ascending entries) : Ascending (insert name value entries) := by
  induction entries with
  | nil => simp [insert, Ascending]
  | cons head rest ih =>
      obtain ⟨k, v⟩ := head
      obtain ⟨below, ascRest⟩ := ascending_cons.1 asc
      simp only [insert]
      split
      · rename_i lt
        refine ascending_cons.2 ⟨fun e mem => ?_, asc⟩
        rcases List.mem_cons.1 mem with rfl | mem
        · exact lt
        · exact String.lt_trans lt (below e mem)
      · rename_i notLt
        split
        · rename_i eq
          subst eq
          exact ascending_cons.2 ⟨below, ascRest⟩
        · rename_i ne
          refine ascending_cons.2 ⟨fun e mem => ?_, ih ascRest⟩
          rcases mem_insert mem with rfl | mem
          · exact lt_of_not_lt_of_ne notLt ne
          · exact below e mem

/-- In an ascending list nothing at or above the first name's lower bound is found too early. -/
theorem get?_eq_none_of_lt {name : String} {entries : Entries α}
    (below : ∀ e ∈ entries, name < e.1) : get? entries name = none := by
  induction entries with
  | nil => rfl
  | cons head rest ih =>
      obtain ⟨k, v⟩ := head
      have lt := below _ List.mem_cons_self
      rw [get?_cons, if_neg]
      · exact ih fun e mem => below e (List.mem_cons_of_mem _ mem)
      · rintro rfl
        exact String.lt_irrefl _ lt

/-- Among distinct names each is found with its own value. -/
theorem get?_of_mem {entries : Entries α} (distinct : (entries.map Prod.fst).Nodup)
    {name : String} {value : α} (mem : (name, value) ∈ entries) :
    get? entries name = some value := by
  induction entries with
  | nil => cases mem
  | cons e rest ih =>
      obtain ⟨k, v⟩ := e
      obtain ⟨out, distinctRest⟩ := List.nodup_cons.1 distinct
      rw [get?_cons]
      rcases List.mem_cons.1 mem with same | later
      · cases same
        rw [if_pos rfl]
      · rw [if_neg, ih distinctRest later]
        rintro rfl
        exact out (List.mem_map.2 ⟨_, later, rfl⟩)

/-- The new binding is found, every other name keeps its value. -/
theorem get?_insert (name : String) (value : α) (entries : Entries α) (other : String) :
    get? (insert name value entries) other =
      if other = name then some value else get? entries other := by
  induction entries with
  | nil => simp [insert, get?_cons]
  | cons head rest ih =>
      obtain ⟨k, v⟩ := head
      simp only [insert]
      split
      · rw [get?_cons]
      · rename_i notLt
        split
        · rename_i eq
          subst eq
          by_cases h : other = name <;> simp [get?_cons, h]
        · rename_i ne
          rw [get?_cons, ih, get?_cons]
          by_cases h : other = k
          · subst h
            simp [Ne.symm ne]
          · simp [h]

/-- Ascending entries are determined by their look-ups. -/
theorem eq_of_get?_eq {xs ys : Entries α} (ascX : Ascending xs) (ascY : Ascending ys)
    (same : ∀ name, get? xs name = get? ys name) : xs = ys := by
  induction xs generalizing ys with
  | nil =>
      cases ys with
      | nil => rfl
      | cons head rest =>
          have := same head.1
          rw [get?_cons, if_pos rfl] at this
          cases this
  | cons x xs ih =>
      obtain ⟨k, v⟩ := x
      obtain ⟨belowX, ascXs⟩ := ascending_cons.1 ascX
      cases ys with
      | nil =>
          have := same k
          rw [get?_cons, if_pos rfl] at this
          cases this
      | cons y ys =>
          obtain ⟨l, w⟩ := y
          obtain ⟨belowY, ascYs⟩ := ascending_cons.1 ascY
          have keys : k = l := by
            apply Classical.byContradiction
            intro ne
            rcases Decidable.em (k < l) with lt | notLt
            · have := same k
              rw [get?_cons, if_pos rfl, get?_cons, if_neg ne,
                get?_eq_none_of_lt fun e mem => String.lt_trans lt (belowY e mem)] at this
              cases this
            · have lt := lt_of_not_lt_of_ne notLt ne
              have := same l
              rw [get?_cons, if_neg (Ne.symm ne), get?_cons, if_pos rfl,
                get?_eq_none_of_lt fun e mem => String.lt_trans lt (belowX e mem)] at this
              cases this
          subst keys
          have values : v = w := by
            have := same k
            rw [get?_cons, if_pos rfl, get?_cons, if_pos rfl] at this
            exact Option.some.inj this
          subst values
          refine congrArg _ (ih ascXs ascYs fun name => ?_)
          have := same name
          rw [get?_cons, get?_cons] at this
          by_cases h : name = k
          · subst h
            rw [get?_eq_none_of_lt belowX, get?_eq_none_of_lt belowY]
          · rwa [if_neg h, if_neg h] at this

end Entries

/-- A map from names whose list of entries ascends. -/
structure NameMap (α : Type u) where
  entries : Entries α := []
  ascending : entries.Ascending := by exact List.Pairwise.nil

namespace NameMap

variable {α : Type u}

def empty : NameMap α := {}

def insert (m : NameMap α) (name : String) (value : α) : NameMap α :=
  ⟨m.entries.insert name value, Entries.ascending_insert name value m.ascending⟩

def get? (m : NameMap α) (name : String) : Option α := m.entries.get? name

def contains (m : NameMap α) (name : String) : Bool := (m.get? name).isSome

def names (m : NameMap α) : List String := m.entries.map Prod.fst

def size (m : NameMap α) : Nat := m.entries.length

def isEmpty (m : NameMap α) : Bool := m.entries.isEmpty

/-- Bind the entries one after another; the last binding of a name stands. -/
def ofList (entries : Entries α) : NameMap α :=
  entries.foldl (fun m e => m.insert e.1 e.2) empty

theorem get?_insert (m : NameMap α) (name : String) (value : α) (other : String) :
    (m.insert name value).get? other = if other = name then some value else m.get? other :=
  Entries.get?_insert name value m.entries other

/-- Entries with distinct names are found where they are put, whatever was there before. -/
theorem get?_foldl_insert {entries : Entries α} (distinct : (entries.map Prod.fst).Nodup)
    (m : NameMap α) (name : String) :
    (entries.foldl (fun m e => m.insert e.1 e.2) m).get? name =
      (Entries.get? entries name).or (m.get? name) := by
  induction entries generalizing m with
  | nil => rfl
  | cons e rest ih =>
      obtain ⟨k, v⟩ := e
      obtain ⟨out, distinctRest⟩ := List.nodup_cons.1 distinct
      rw [List.foldl_cons, ih distinctRest, get?_insert, Entries.get?_cons]
      split
      · rename_i same
        subst same
        have later : Entries.get? rest name = none := by
          apply List.lookup_eq_none_iff.2
          intro e member
          have named : e.1 ∈ rest.map Prod.fst := List.mem_map_of_mem member
          simp only [bne_iff_ne, ne_eq]
          rintro rfl
          exact out named
        rw [later]
        rfl
      · rfl

/-- The map of entries with distinct names has the look-ups of the list. -/
theorem get?_ofList {entries : Entries α} (distinct : (entries.map Prod.fst).Nodup)
    (name : String) : (ofList entries).get? name = Entries.get? entries name := by
  rw [ofList, get?_foldl_insert distinct]
  exact Option.or_none

theorem ext_entries {m n : NameMap α} (h : m.entries = n.entries) : m = n := by
  cases m; cases n; cases h; rfl

/-- A map is its look-ups. -/
theorem ext_get? {m n : NameMap α} (same : ∀ name, m.get? name = n.get? name) : m = n :=
  ext_entries (Entries.eq_of_get?_eq m.ascending n.ascending same)

end NameMap

end ConsoleView
