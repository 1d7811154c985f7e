/-
# ConsoleView.Proofs.Disk.Honest -- disks on which anything may fail

The program runs on any disk; what is proved about it should hold on disks that
fail.  An honest disk may refuse to change anything, at any time and for any
reason; but what it reports as done has been done, and what it reports as failed
has not, except that a file may have been written halfway.  What is there it
tells truly.

The disk in memory is honest (`honest_disk`), and so is one on which every change
can be made to fail (`honest_unreliable`).
-/
import ConsoleView.Proofs.Disk.Directory

namespace ConsoleView

set_option autoImplicit false

/-- The disk tells truly what is in the tree of its state, and what it does to it. -/
structure Disk.Honest {σ : Type} (disk : Disk (StateM σ)) (cwd : Place) (tree : σ → FileTree) :
    Prop where
  isPresent : ∀ path s, disk.isPresent path s = (((tree s).find cwd path).isOk, s)
  isDirectory : ∀ path s, disk.isDirectory path s = ((tree s).hasDirectory cwd path, s)
  readText : ∀ path s, disk.readText path s = ((tree s).readText cwd path, s)
  written : ∀ {path text : String} {s s' : σ}, disk.writeText path text s = (.ok (), s') →
    (tree s).writeBytes cwd path text.toUTF8 = .ok (tree s')
  notWritten : ∀ {path text : String} {fault : FileFault} {s s' : σ},
    disk.writeText path text s = (.error fault, s') →
      tree s' = tree s ∨ ∃ bytes, (tree s).writeBytes cwd path bytes = .ok (tree s')
  renamed : ∀ {source target : String} {s s' : σ}, disk.renameFile source target s = (.ok (), s') →
    (tree s).renameFile cwd source target = .ok (tree s')
  notRenamed : ∀ {source target : String} {fault : FileFault} {s s' : σ},
    disk.renameFile source target s = (.error fault, s') → tree s' = tree s
  made : ∀ {path : String} {s s' : σ}, disk.makeDirectory path s = (.ok (), s') →
    (tree s).makeDirectory cwd path = .ok (tree s')
  notMade : ∀ {path : String} {fault : FileFault} {s s' : σ},
    disk.makeDirectory path s = (.error fault, s') → tree s' = tree s

namespace FileTree

/-! ## The disk in memory -/

section Attempt

variable {op : FileTree → Except FileFault FileTree} {t t' : FileTree} {fault : FileFault}

theorem attempt_eq_ok (done : attempt op t = (.ok (), t')) : op t = .ok t' := by
  unfold attempt at done
  split at done
  · rename_i t'' succeeded
    rw [succeeded, (Prod.mk.inj done).2]
  · cases (Prod.mk.inj done).1

theorem attempt_eq_error (failed : attempt op t = (.error fault, t')) : t' = t := by
  unfold attempt at failed
  split at failed
  · cases (Prod.mk.inj failed).1
  · exact (Prod.mk.inj failed).2.symm

end Attempt

theorem honest_disk (cwd : Place) : (disk cwd).Honest cwd id where
  isPresent := fun _ _ => rfl
  isDirectory := fun _ _ => rfl
  readText := fun _ _ => rfl
  written := by
    intro path text s s' done
    let op (t : FileTree) := t.writeBytes cwd path text.toUTF8
    exact attempt_eq_ok (show attempt op s = (.ok (), s') from done)
  notWritten := by
    intro path text fault s s' failed
    let op (t : FileTree) := t.writeBytes cwd path text.toUTF8
    exact Or.inl (attempt_eq_error (show attempt op s = (.error fault, s') from failed))
  renamed := by
    intro source target s s' done
    let op (t : FileTree) := t.renameFile cwd source target
    exact attempt_eq_ok (show attempt op s = (.ok (), s') from done)
  notRenamed := by
    intro source target fault s s' failed
    let op (t : FileTree) := t.renameFile cwd source target
    exact attempt_eq_error (show attempt op s = (.error fault, s') from failed)
  made := by
    intro path s s' done
    let op (t : FileTree) := t.makeDirectory cwd path
    exact attempt_eq_ok (show attempt op s = (.ok (), s') from done)
  notMade := by
    intro path fault s s' failed
    let op (t : FileTree) := t.makeDirectory cwd path
    exact attempt_eq_error (show attempt op s = (.error fault, s') from failed)

end FileTree

/-! ## A disk that fails -/

/-- What goes wrong with a change: it is refused, or a file is written with other bytes first. -/
inductive Mishap where
  | refused (fault : FileFault)
  | cutShort (bytes : ByteArray) (fault : FileFault)

/-- Files, and what will go wrong with the next changes, where nothing does `none`. -/
structure UnreliableTree where
  tree : FileTree
  mishaps : List (Option Mishap) := []

namespace UnreliableTree

/-- Try a change, or let the next mishap come in its place.  `halfway` is what is left of it if it
is cut short. -/
def attempt (op : FileTree → Except FileFault FileTree)
    (halfway : ByteArray → FileTree → Except FileFault FileTree) :
    StateM UnreliableTree (Except FileFault Unit) :=
  fun s =>
    let next (result : Except FileFault Unit) (tree : FileTree) :
        Except FileFault Unit × UnreliableTree := (result, { tree, mishaps := s.mishaps.tail })
    match s.mishaps.head?.join with
    | some (.refused fault) => next (.error fault) s.tree
    | some (.cutShort bytes fault) =>
        match halfway bytes s.tree with
        | .ok tree => next (.error fault) tree
        | .error _ => next (.error fault) s.tree
    | none =>
        match op s.tree with
        | .ok tree => next (.ok ()) tree
        | .error fault => next (.error fault) s.tree

/-- A change that is not done step by step leaves nothing if it is cut short. -/
def untouched (_ : ByteArray) (t : FileTree) : Except FileFault FileTree := .ok t

/-- The operations on a tree, each of which may go wrong. -/
def disk (cwd : Place) : Disk (StateM UnreliableTree) where
  isPresent path := fun s => ((s.tree.find cwd path).isOk, s)
  isDirectory path := fun s => (s.tree.hasDirectory cwd path, s)
  readText path := fun s => (s.tree.readText cwd path, s)
  writeText path text :=
    attempt (fun t => t.writeBytes cwd path text.toUTF8) fun bytes t => t.writeBytes cwd path bytes
  renameFile source target := attempt (fun t => t.renameFile cwd source target) untouched
  makeDirectory path := attempt (fun t => t.makeDirectory cwd path) untouched

section Attempt

variable {op : FileTree → Except FileFault FileTree}
  {halfway : ByteArray → FileTree → Except FileFault FileTree} {s s' : UnreliableTree}
  {fault : FileFault}

theorem attempt_eq_ok (done : attempt op halfway s = (.ok (), s')) : op s.tree = .ok s'.tree := by
  unfold attempt at done
  dsimp only at done
  split at done
  · cases (Prod.mk.inj done).1
  · split at done <;> cases (Prod.mk.inj done).1
  · split at done
    · rename_i tree succeeded
      rw [succeeded, ← (Prod.mk.inj done).2]
    · cases (Prod.mk.inj done).1

theorem attempt_eq_error (failed : attempt op halfway s = (.error fault, s')) :
    s'.tree = s.tree ∨ ∃ bytes, halfway bytes s.tree = .ok s'.tree := by
  unfold attempt at failed
  dsimp only at failed
  split at failed
  · exact Or.inl (by rw [← (Prod.mk.inj failed).2])
  · split at failed
    · rename_i bytes _ _ _ tree left
      exact Or.inr ⟨bytes, by rw [left, ← (Prod.mk.inj failed).2]⟩
    · exact Or.inl (by rw [← (Prod.mk.inj failed).2])
  · split at failed
    · cases (Prod.mk.inj failed).1
    · exact Or.inl (by rw [← (Prod.mk.inj failed).2])

theorem attempt_untouched_eq_error (failed : attempt op untouched s = (.error fault, s')) :
    s'.tree = s.tree := by
  rcases attempt_eq_error failed with same | ⟨bytes, same⟩
  · exact same
  · exact (Except.ok.inj same).symm

end Attempt

theorem honest_unreliable (cwd : Place) : (disk cwd).Honest cwd UnreliableTree.tree where
  isPresent := fun _ _ => rfl
  isDirectory := fun _ _ => rfl
  readText := fun _ _ => rfl
  written := by
    intro path text s s' done
    let op (t : FileTree) := t.writeBytes cwd path text.toUTF8
    let halfway (bytes : ByteArray) (t : FileTree) := t.writeBytes cwd path bytes
    exact attempt_eq_ok (show attempt op halfway s = (.ok (), s') from done)
  notWritten := by
    intro path text fault s s' failed
    let op (t : FileTree) := t.writeBytes cwd path text.toUTF8
    let halfway (bytes : ByteArray) (t : FileTree) := t.writeBytes cwd path bytes
    exact attempt_eq_error (show attempt op halfway s = (.error fault, s') from failed)
  renamed := by
    intro source target s s' done
    let op (t : FileTree) := t.renameFile cwd source target
    exact attempt_eq_ok (show attempt op untouched s = (.ok (), s') from done)
  notRenamed := by
    intro source target fault s s' failed
    let op (t : FileTree) := t.renameFile cwd source target
    exact attempt_untouched_eq_error (show attempt op untouched s = (.error fault, s') from failed)
  made := by
    intro path s s' done
    let op (t : FileTree) := t.makeDirectory cwd path
    exact attempt_eq_ok (show attempt op untouched s = (.ok (), s') from done)
  notMade := by
    intro path fault s s' failed
    let op (t : FileTree) := t.makeDirectory cwd path
    exact attempt_untouched_eq_error (show attempt op untouched s = (.error fault, s') from failed)

end UnreliableTree

/-! ## Directories on an honest disk -/

/-- Whatever the program answers, the tree has only grown. -/
def Grows {σ α : Type} (tree : σ → FileTree) (x : StateM σ α) : Prop :=
  ∀ s, (tree s).Grown (tree (x s).2)

namespace Grows

variable {σ α β : Type} {tree : σ → FileTree}

theorem pure (a : α) : Grows tree (Pure.pure a : StateM σ α) := fun s => .refl (tree s)

theorem bind {x : StateM σ α} {f : α → StateM σ β} (first : Grows tree x)
    (next : ∀ a, Grows tree (f a)) : Grows tree (x >>= f) := by
  intro s
  exact (first s).trans (next (x s).1 (x s).2)

end Grows

namespace Disk.Honest

variable {σ : Type} {disk : Disk (StateM σ)} {cwd : Place} {tree : σ → FileTree}

theorem grows_isPresent (honest : disk.Honest cwd tree) (path : String) :
    Grows tree (disk.isPresent path) := by
  intro s
  rw [honest.isPresent]
  exact .refl _

theorem grows_isDirectory (honest : disk.Honest cwd tree) (path : String) :
    Grows tree (disk.isDirectory path) := by
  intro s
  rw [honest.isDirectory]
  exact .refl _

theorem grows_makeDirectory (honest : disk.Honest cwd tree) (path : String) :
    Grows tree (disk.makeDirectory path) := by
  intro s
  obtain ⟨⟨made, s'⟩, ran⟩ : ∃ outcome, disk.makeDirectory path s = outcome := ⟨_, rfl⟩
  rw [ran]
  cases made with
  | ok _ => exact FileTree.grown_makeDirectory (honest.made ran)
  | error fault =>
      rw [honest.notMade ran]
      exact .refl _

theorem grows_ensureDirectory (honest : disk.Honest cwd tree) (path : String) :
    Grows tree (disk.ensureDirectory path) := by
  unfold ensureDirectory
  apply (honest.grows_makeDirectory path).bind
  intro made
  split
  · apply (honest.grows_isDirectory path).bind
    intro isDirectory
    split
    · exact .pure _
    · exact .pure _
  · exact .pure _

/-- **Making directories adds directories only**, also if it fails on the way. -/
theorem grows_ensureNested (honest : disk.Honest cwd tree) (paths : List String) :
    Grows tree (disk.ensureNested paths) := by
  induction paths with
  | nil => exact .pure _
  | cons path outer ih =>
      unfold ensureNested
      apply (honest.grows_ensureDirectory path).bind
      intro made
      split
      · apply ih.bind
        intro outerMade
        split
        · exact honest.grows_ensureDirectory path
        · exact .pure _
      · exact .pure _

end Disk.Honest

end ConsoleView
