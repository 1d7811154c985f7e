/-
# ConsoleView.Proofs.Disk.Walk -- where paths lead, and which changes they notice

There are no links from one place to another, so where a path leads can be read
off the path (`follow`); the tree only decides whether the walk gets there.  It
does if everything on the way is a directory.  So a walk is not disturbed by a
change that keeps the directories on its way (`walk_of_keeps`), and in a tree
where every item is in a directory a walk that never goes back gets to every
directory that there is (`walk_of_nested`).
-/
import ConsoleView.Disk.Tree
import Mathlib.Data.List.Induction

namespace ConsoleView

set_option autoImplicit false

/-- Where a name leads from a place. -/
def Place.turn (here : Place) (name : String) : Place :=
  if name = "" ∨ name = "." then here
  else if name = ".." then here.dropLast
  else here ++ [name]

def Place.follow (here : Place) (names : List String) : Place := names.foldl Place.turn here

namespace FileTree

variable {t t' : FileTree} {here there place other : Place} {name : String} {names : List String}
  {item : FileItem}

/-! ## Directories -/

theorem isDirectory_iff : t.isDirectory place = true ↔ t.item? place = some .directory := by
  unfold isDirectory
  split
  · rename_i found
    simp [found]
  · rename_i other
    constructor
    · intro impossible
      cases impossible
    · intro found
      exact absurd found other

theorem item?_remove (apart : ¬ place <+: other) :
    (t.remove place).item? other = t.item? other := by
  unfold item? remove
  split
  · rfl
  · dsimp only
    induction t.items with
    | nil => rfl
    | cons entry rest ih =>
        obtain ⟨key, item⟩ := entry
        by_cases here : other = key
        · subst here
          have kept : (!place.isPrefixOf other) = true := by
            rw [Bool.not_eq_true', ← Bool.not_eq_true, List.isPrefixOf_iff_prefix]
            exact apart
          rw [List.filter_cons, if_pos kept]
          simp
        · have skipped : (other == key) = false := beq_false_of_ne here
          rw [List.filter_cons]
          split <;> simp [List.lookup_cons, skipped, ih]

theorem isDirectory_put_directory (ne : place ≠ []) (found : t.isDirectory other = true) :
    (t.put place .directory).isDirectory other = true := by
  rw [isDirectory_iff] at found ⊢
  rw [item?_put ne]
  split
  · rfl
  · exact found

theorem isDirectory_put_file {bytes : ByteArray} (ne : place ≠ [])
    (unused : t.isDirectory place = false) (found : t.isDirectory other = true) :
    (t.put place (.file bytes)).isDirectory other = true := by
  have apart : other ≠ place := by
    rintro rfl
    rw [found] at unused
    cases unused
  rw [isDirectory_iff] at found ⊢
  rw [item?_put ne, if_neg apart]
  exact found

/-! ## Steps and walks -/

/-- One step gets on from a directory only, and to something that is there. -/
theorem step_eq_ok (stepped : t.step here name = .ok there) :
    t.isDirectory here = true ∧ there = here.turn name := by
  unfold step at stepped
  split at stepped
  · cases stepped
  · rename_i inside
    have directory : t.isDirectory here = true := by simpa using inside
    refine ⟨directory, ?_⟩
    unfold Place.turn
    split at stepped
    · rename_i stays
      rw [if_pos stays]
      exact (Except.ok.inj stepped).symm
    · rename_i moves
      rw [if_neg moves]
      split at stepped
      · rename_i back
        rw [if_pos back]
        exact (Except.ok.inj stepped).symm
      · rename_i on
        rw [if_neg on]
        split at stepped
        · cases stepped
        · split at stepped
          · exact (Except.ok.inj stepped).symm
          · cases stepped

/-- A step fails as not found only if nothing is there. -/
theorem item?_of_step (missing : t.step here name = .error .notFound) :
    t.item? (here ++ [name]) = none := by
  unfold step at missing
  split at missing
  · cases missing
  · split at missing
    · cases missing
    · split at missing
      · cases missing
      · split at missing
        · cases missing
        · split at missing
          · cases missing
          · assumption

/-- A step to a directory is possible wherever both ends are directories. -/
theorem step_of_keeps (stepped : t.step here name = .ok there)
    (here' : t'.isDirectory here = true) (there' : t'.isDirectory there = true) :
    t'.step here name = .ok there := by
  obtain ⟨-, turned⟩ := step_eq_ok stepped
  unfold step at stepped ⊢
  rw [here']
  split at stepped
  · cases stepped
  · simp only [Bool.not_true, Bool.false_eq_true, if_false]
    split at stepped
    · rename_i stays
      rw [if_pos stays]
      exact stepped
    · rename_i moves
      rw [if_neg moves]
      split at stepped
      · rename_i back
        rw [if_pos back]
        exact stepped
      · rename_i on
        rw [if_neg on]
        split at stepped
        · cases stepped
        · rename_i short
          have next : there = here ++ [name] := by
            rw [turned, Place.turn, if_neg moves, if_neg on]
          rw [next, isDirectory_iff] at there'
          rw [if_neg short, there', next]

theorem walk_append (front back : List String) :
    t.walk here (front ++ back) =
      match t.walk here front with
      | .error fault => .error fault
      | .ok there => t.walk there back := by
  induction front generalizing here with
  | nil => rfl
  | cons name front ih =>
      rw [List.cons_append, walk, walk]
      cases t.step here name with
      | error fault => rfl
      | ok next => exact ih

theorem walk_singleton : t.walk here [name] = t.step here name := by
  rw [walk]
  cases t.step here name <;> rfl

/-- A walk that gets anywhere gets to where its names lead. -/
theorem follow_of_walk (walked : t.walk here names = .ok place) : place = here.follow names := by
  induction names generalizing here with
  | nil =>
      cases walked
      rfl
  | cons name names ih =>
      rw [walk] at walked
      cases stepped : t.step here name with
      | error fault =>
          rw [stepped] at walked
          cases walked
      | ok next =>
          rw [stepped] at walked
          have turned := (step_eq_ok stepped).2
          rw [ih walked, turned]
          rfl

/-! ## Changes that a walk does not notice -/

/-- **A walk gets to its directory as before if the directories on its way are kept.**  A change may
take away directories in a part `gone` of the places that no step leads out of and that the walk
does not end in. -/
theorem walk_of_keeps (gone : Place → Prop)
    (keeps : ∀ p, t.isDirectory p = true → ¬ gone p → t'.isDirectory p = true)
    (closed : ∀ p name, t.isDirectory p = true → gone p → gone (p.turn name))
    (walked : t.walk here names = .ok place) (found : t.isDirectory place = true)
    (apart : ¬ gone place) :
    t'.walk here names = .ok place ∧ t.isDirectory here = true ∧ ¬ gone here := by
  induction names generalizing here with
  | nil =>
      cases walked
      exact ⟨rfl, found, apart⟩
  | cons name names ih =>
      rw [walk] at walked ⊢
      cases stepped : t.step here name with
      | error fault =>
          rw [stepped] at walked
          cases walked
      | ok next =>
          rw [stepped] at walked
          obtain ⟨walked', inside, outside⟩ := ih walked
          obtain ⟨directory, turned⟩ := step_eq_ok stepped
          have outsideHere : ¬ gone here := by
            intro within
            apply outside
            rw [turned]
            exact closed here name directory within
          have stepped' := step_of_keeps stepped (keeps here directory outsideHere)
            (keeps next inside outside)
          rw [stepped']
          exact ⟨walked', directory, outsideHere⟩

/-- No step leads out of a place that is no directory. -/
theorem prefix_turn (closed : t.isDirectory place = false) (inside : t.isDirectory here = true)
    (within : place <+: here) : place <+: here.turn name := by
  unfold Place.turn
  split
  · exact within
  · split
    · obtain ⟨rest, rfl⟩ := within
      have nonempty : rest ≠ [] := by
        rintro rfl
        rw [List.append_nil, closed] at inside
        cases inside
      rw [List.dropLast_append_of_ne_nil nonempty]
      exact List.prefix_append _ _
    · exact within.trans (List.prefix_append _ _)

/-! ## Trees whose items are in directories -/

/-- Every item is in a directory. -/
def Nested (t : FileTree) : Prop :=
  ∀ place name, (t.item? (place ++ [name])).isSome = true → t.isDirectory place = true

theorem Nested.isDirectory_of_prefix (nested : t.Nested) (within : place <+: other)
    (found : t.isDirectory other = true) : t.isDirectory place = true := by
  obtain ⟨rest, rfl⟩ := within
  induction rest using List.reverseRecOn with
  | nil => rwa [List.append_nil] at found
  | append_singleton rest name ih =>
      apply ih
      rw [← List.append_assoc, isDirectory_iff] at found
      exact nested _ name (by rw [found]; rfl)

/-- **Without going back a walk gets to every directory that is there**, if its names can be
followed in some tree. -/
theorem walk_of_nested (nested : t.Nested) (forward : ".." ∉ names)
    (walked : t'.walk here names = .ok place) (found : t.isDirectory place = true) :
    t.walk here names = .ok place ∧ here <+: place := by
  induction names generalizing here with
  | nil =>
      cases walked
      exact ⟨rfl, List.prefix_rfl⟩
  | cons name names ih =>
      have notBack : name ≠ ".." := by
        rintro rfl
        exact forward List.mem_cons_self
      rw [walk] at walked ⊢
      cases stepped : t'.step here name with
      | error fault =>
          rw [stepped] at walked
          cases walked
      | ok next =>
          rw [stepped] at walked
          have forward' : ".." ∉ names := fun member => forward (List.mem_cons_of_mem _ member)
          obtain ⟨walked', within⟩ := ih forward' walked
          have onward : here <+: next := by
            rw [(step_eq_ok stepped).2, Place.turn, if_neg notBack]
            split
            · exact List.prefix_rfl
            · exact List.prefix_append _ _
          have prior := onward.trans within
          have stepped' := step_of_keeps stepped (nested.isDirectory_of_prefix prior found)
            (nested.isDirectory_of_prefix within found)
          rw [stepped']
          exact ⟨walked', prior⟩

end FileTree

end ConsoleView
