/-
# ConsoleView.Proofs.Disk.Directory -- the files of one directory

All that the program does with its configuration it does with two files beside
each other.  The walk to the directory is the same for both; `opens` says
whether it gets there, and `home` is where.  Each file operation on `dir/name`
is then one equation about the place `home/name`.
-/
import ConsoleView.Proofs.Disk.Walk

namespace ConsoleView

set_option autoImplicit false

/-! ## Names in a directory -/

/-- The names on the way to the files of a directory. -/
def outerParts (dir : String) : List String :=
  if dir.isEmpty then []
  else if dir.toList.getLast? = some '/' then (pathParts dir).dropLast
  else pathParts dir

/-- A name that a file can have, and that leads to it. -/
structure IsFileName (name : String) : Prop where
  unparted : '/' ∉ name.toList
  moves : ¬ (name = "" ∨ name = ".")
  onward : name ≠ ".."
  short : ¬ FileTree.maxName < name.utf8ByteSize

section Join

variable {dir name : String}

theorem not_isAbsolutePath (unparted : '/' ∉ name.toList) : isAbsolutePath name = false := by
  unfold isAbsolutePath
  rw [beq_eq_false_iff_ne]
  intro head
  exact unparted (List.mem_of_mem_head? head)

theorem pathParts_of_unparted (unparted : '/' ∉ name.toList) : pathParts name = [name] := by
  have clear : ∀ c ∈ name.toList, (c == '/') = false := by
    intro c member
    rw [beq_eq_false_iff_ne]
    rintro rfl
    exact unparted member
  rw [pathParts, Text.pieces_of_clear clear, List.map_singleton, String.ofList_toList]

/-- A slash parts a path. -/
theorem pathParts_append (front back : String) :
    pathParts (front ++ "/" ++ back) = pathParts front ++ pathParts back := by
  have cut : Text.pieces (· == '/') (front.toList ++ '/' :: back.toList) =
      Text.pieces (· == '/') front.toList ++ Text.pieces (· == '/') back.toList :=
    Text.pieces_append rfl
  have slash : "/".toList = ['/'] := rfl
  rw [pathParts, String.toList_append, String.toList_append, slash, List.append_assoc,
    List.singleton_append, cut, List.map_append]
  rfl

/-- The names of a file's path are those on the way, and the file's own. -/
theorem pathParts_joinPath (unparted : '/' ∉ name.toList) :
    pathParts (joinPath dir name) = outerParts dir ++ [name] := by
  have single := pathParts_of_unparted unparted
  rw [joinPath, not_isAbsolutePath unparted, outerParts]
  simp only [Bool.false_eq_true, if_false]
  by_cases empty : dir.isEmpty = true
  · have same : dir = "" := by simpa using empty
    subst same
    simpa using single
  · by_cases ended : dir.toList.getLast? = some '/'
    · obtain ⟨front, split⟩ := List.getLast?_eq_some_iff.1 ended
      have same : dir = String.ofList front ++ "/" := by
        rw [← String.toList_inj, split, String.toList_append, String.toList_ofList]
        rfl
      have joined := pathParts_append (String.ofList front) name
      have outer := pathParts_append (String.ofList front) ""
      have none : pathParts "" = [""] := rfl
      rw [String.append_empty, none] at outer
      simp only [empty, ended, Bool.false_eq_true, beq_self_eq_true, Bool.or_true, if_true,
        if_false]
      rw [same, joined, outer, single, List.dropLast_concat]
    · have unended : (dir.toList.getLast? == some '/') = false := by simpa using ended
      simp only [empty, ended, unended, Bool.false_eq_true, Bool.or_self, if_false]
      rw [pathParts_append, single]

/-- A file's path starts where the path of its directory starts. -/
theorem origin_joinPath (cwd : Place) (unparted : '/' ∉ name.toList) :
    FileTree.origin cwd (joinPath dir name) = FileTree.origin cwd dir := by
  have absolute : isAbsolutePath (joinPath dir name) = isAbsolutePath dir := by
    rw [joinPath, not_isAbsolutePath unparted]
    simp only [Bool.false_eq_true, if_false]
    by_cases empty : dir.isEmpty = true
    · have same : dir = "" := by simpa using empty
      subst same
      have relative : isAbsolutePath "" = false := rfl
      simpa [relative] using not_isAbsolutePath unparted
    · have nonempty : dir.toList ≠ [] := by simpa using empty
      obtain ⟨c, tail, split⟩ := List.exists_cons_of_ne_nil nonempty
      split <;> simp [isAbsolutePath, String.toList_append, split]
  rw [FileTree.origin, FileTree.origin, absolute]

end Join

namespace FileTree

variable {t t' : FileTree} {cwd place : Place} {dir name other : String} {bytes : ByteArray}

/-! ## The directory -/

/-- Where the files of a directory are. -/
def home (cwd : Place) (dir : String) : Place := (origin cwd dir).follow (outerParts dir)

/-- Whether the way to the files of a directory is there. -/
def opens (t : FileTree) (cwd : Place) (dir : String) : Bool :=
  match t.walk (origin cwd dir) (outerParts dir) with
  | .ok place => t.isDirectory place
  | .error _ => false

theorem opens_iff : t.opens cwd dir = true ↔
    t.walk (origin cwd dir) (outerParts dir) = .ok (home cwd dir) ∧
      t.isDirectory (home cwd dir) = true := by
  unfold opens
  cases walked : t.walk (origin cwd dir) (outerParts dir) with
  | error fault => simp
  | ok place =>
      have same : place = home cwd dir := follow_of_walk walked
      simp [same]

/-! ## Its files -/

def file? (t : FileTree) (place : Place) : Option ByteArray :=
  match t.item? place with
  | some (.file bytes) => some bytes
  | _ => none

theorem file?_eq_some_iff : t.file? place = some bytes ↔ t.item? place = some (.file bytes) := by
  unfold file?
  split
  · rename_i here item
    rw [item]
    simp
  · rename_i none
    constructor
    · intro impossible
      cases impossible
    · intro item
      exact absurd item (none bytes)

theorem file?_congr {other : Place} (same : t'.item? other = t.item? other) :
    t'.file? other = t.file? other := by
  rw [file?, file?, same]

theorem findTarget_eq_ok (fileName : IsFileName name)
    (found : t.findTarget cwd (joinPath dir name) = .ok place) :
    t.opens cwd dir = true ∧ checkPath (joinPath dir name) = .ok () ∧
      place = home cwd dir ++ [name] := by
  unfold findTarget at found
  cases checked : checkPath (joinPath dir name) with
  | error fault =>
      rw [checked] at found
      cases found
  | ok _ =>
      simp only [checked, pathParts_joinPath fileName.unparted,
        origin_joinPath cwd fileName.unparted, List.dropLast_concat, List.getLast?_concat,
        Option.getD_some] at found
      cases walked : t.walk (origin cwd dir) (outerParts dir) with
      | error fault =>
          rw [walked] at found
          cases found
      | ok here =>
          have same : here = home cwd dir := follow_of_walk walked
          simp only [walked] at found
          split at found
          · cases found
          · rename_i inside
            split at found
            · cases found
            · split at found
              · cases found
              · have directory : t.isDirectory (home cwd dir) = true := by
                  rw [← same]
                  simpa using inside
                refine ⟨opens_iff.2 ⟨same ▸ walked, directory⟩, rfl, ?_⟩
                rw [← Except.ok.inj found, same]

/-- A file or directory is found exactly if its directory opens and it is there. -/
theorem find_eq_ok_iff (fileName : IsFileName name) :
    t.find cwd (joinPath dir name) = .ok place ↔
      checkPath (joinPath dir name) = .ok () ∧ t.opens cwd dir = true ∧
        (t.item? (home cwd dir ++ [name])).isSome = true ∧ place = home cwd dir ++ [name] := by
  unfold find
  cases checked : checkPath (joinPath dir name) with
  | error fault => simp
  | ok _ =>
      simp only [pathParts_joinPath fileName.unparted, origin_joinPath cwd fileName.unparted,
        walk_append, true_and]
      rw [opens_iff]
      cases walked : t.walk (origin cwd dir) (outerParts dir) with
      | error fault => simp
      | ok here =>
          obtain rfl : here = home cwd dir := follow_of_walk walked
          simp only [walk_singleton, step, if_neg fileName.moves, if_neg fileName.onward,
            if_neg fileName.short, true_and]
          cases t.isDirectory (home cwd dir) with
          | false => simp
          | true =>
              cases t.item? (home cwd dir ++ [name]) with
              | none => simp
              | some item => simp [eq_comm]

theorem readText_eq_ok_iff (fileName : IsFileName name) {text : String} :
    t.readText cwd (joinPath dir name) = .ok text ↔
      checkPath (joinPath dir name) = .ok () ∧ t.opens cwd dir = true ∧
        ∃ bytes, t.item? (home cwd dir ++ [name]) = some (.file bytes) ∧
          String.fromUTF8? bytes = some text := by
  unfold readText readBytes
  cases found : t.find cwd (joinPath dir name) with
  | error fault =>
      constructor
      · intro impossible
        cases impossible
      · rintro ⟨checked, opened, bytes, item, -⟩
        have present : t.find cwd (joinPath dir name) = .ok (home cwd dir ++ [name]) :=
          (find_eq_ok_iff fileName).2 ⟨checked, opened, by rw [item]; rfl, rfl⟩
        rw [found] at present
        cases present
  | ok place =>
      obtain ⟨checked, opened, -, rfl⟩ := (find_eq_ok_iff fileName).1 found
      simp only [checked, opened, true_and]
      cases t.item? (home cwd dir ++ [name]) with
      | none => simp
      | some item =>
          cases item with
          | directory => simp
          | file bytes => cases decoded : String.fromUTF8? bytes <;> simp [decoded]

/-- What is not in a directory that opens is not found. -/
theorem readText_of_missing (fileName : IsFileName name)
    (checked : checkPath (joinPath dir name) = .ok ()) (opened : t.opens cwd dir = true)
    (missing : t.item? (home cwd dir ++ [name]) = none) :
    t.readText cwd (joinPath dir name) = .error .notFound := by
  obtain ⟨walked, found⟩ := opens_iff.1 opened
  have unfound : t.find cwd (joinPath dir name) = .error .notFound := by
    rw [find, checked]
    simp only [pathParts_joinPath fileName.unparted, origin_joinPath cwd fileName.unparted,
      walk_append, walked, walk_singleton, step, found, missing, if_neg fileName.moves,
      if_neg fileName.onward, if_neg fileName.short, Bool.not_true, Bool.false_eq_true, if_false]
  rw [readText, readBytes, unfound]

/-- The text that can be read. -/
theorem toOption_readText (fileName : IsFileName name) :
    (t.readText cwd (joinPath dir name)).toOption =
      if (checkPath (joinPath dir name)).isOk && t.opens cwd dir then
        (t.file? (home cwd dir ++ [name])).bind String.fromUTF8?
      else none := by
  apply Option.ext
  intro text
  have read : (t.readText cwd (joinPath dir name)).toOption = some text ↔
      t.readText cwd (joinPath dir name) = .ok text := by
    cases t.readText cwd (joinPath dir name) <;> simp [Except.toOption]
  rw [read, readText_eq_ok_iff fileName]
  cases (checkPath (joinPath dir name)) with
  | error fault => simp [Except.isOk, Except.toBool]
  | ok _ =>
      cases t.opens cwd dir with
      | false => simp
      | true => simp [Except.isOk, Except.toBool, Option.bind_eq_some_iff, file?_eq_some_iff]

/-! ## Changes -/

theorem writeBytes_eq_ok (fileName : IsFileName name)
    (written : t.writeBytes cwd (joinPath dir name) bytes = .ok t') :
    t.opens cwd dir = true ∧ t.isDirectory (home cwd dir ++ [name]) = false ∧
      t' = t.put (home cwd dir ++ [name]) (.file bytes) := by
  unfold writeBytes at written
  cases found : t.findTarget cwd (joinPath dir name) with
  | error fault =>
      rw [found] at written
      cases written
  | ok place =>
      obtain ⟨opened, -, rfl⟩ := findTarget_eq_ok fileName found
      simp only [found] at written
      split at written
      · cases written
      · rename_i other
        refine ⟨opened, ?_, (Except.ok.inj written).symm⟩
        rw [← Bool.not_eq_true, isDirectory_iff]
        exact other

theorem renameFile_eq_ok (fileName : IsFileName name) (fileName' : IsFileName other)
    (renamed : t.renameFile cwd (joinPath dir name) (joinPath dir other) = .ok t') :
    checkPath (joinPath dir other) = .ok () ∧ t.opens cwd dir = true ∧
      t.isDirectory (home cwd dir ++ [other]) = false ∧
      ∃ bytes, t.item? (home cwd dir ++ [name]) = some (.file bytes) ∧
        t' = (t.remove (home cwd dir ++ [name])).put (home cwd dir ++ [other]) (.file bytes) := by
  unfold renameFile at renamed
  cases source : t.findTarget cwd (joinPath dir name) with
  | error fault =>
      rw [source] at renamed
      cases renamed
  | ok old =>
      cases target : t.findTarget cwd (joinPath dir other) with
      | error fault =>
          rw [source, target] at renamed
          cases renamed
      | ok new =>
          obtain ⟨opened, -, rfl⟩ := findTarget_eq_ok fileName source
          obtain ⟨-, checked, rfl⟩ := findTarget_eq_ok fileName' target
          simp only [source, target] at renamed
          split at renamed
          · cases renamed
          · cases renamed
          · cases renamed
          · rename_i bytes item free
            refine ⟨checked, opened, ?_, bytes, item, (Except.ok.inj renamed).symm⟩
            rw [← Bool.not_eq_true, isDirectory_iff]
            exact free

theorem makeDirectory_eq_ok {path : String} (made : t.makeDirectory cwd path = .ok t') :
    ∃ place, place ≠ [] ∧ t.item? place = none ∧ t' = t.put place .directory := by
  unfold makeDirectory at made
  split at made
  · cases made
  · dsimp only at made
    split at made
    · cases made
    · rename_i outer walked
      split at made
      · cases made
      · rename_i missing
        refine ⟨_, by simp, item?_of_step missing, (Except.ok.inj made).symm⟩
      · cases made

/-- The directories stay, and the files are the same. -/
structure Grown (t t' : FileTree) : Prop where
  directory : ∀ p, t.isDirectory p = true → t'.isDirectory p = true
  file : ∀ p, t'.file? p = t.file? p

theorem Grown.refl (t : FileTree) : Grown t t := ⟨fun _ => id, fun _ => rfl⟩

theorem Grown.trans {t'' : FileTree} (first : Grown t t') (second : Grown t' t'') : Grown t t'' :=
  ⟨fun p inside => second.directory p (first.directory p inside),
    fun p => (second.file p).trans (first.file p)⟩

theorem grown_makeDirectory {path : String} (made : t.makeDirectory cwd path = .ok t') :
    Grown t t' := by
  obtain ⟨place, nonempty, unused, rfl⟩ := makeDirectory_eq_ok made
  refine ⟨fun p => isDirectory_put_directory nonempty, fun p => ?_⟩
  by_cases same : p = place
  · subst same
    rw [file?, file?, item?_put nonempty, if_pos rfl, unused]
  · apply file?_congr
    rw [item?_put nonempty, if_neg same]

/-- What keeps all directories keeps the way open. -/
theorem opens_of_keeps (keeps : ∀ p, t.isDirectory p = true → t'.isDirectory p = true)
    (opened : t.opens cwd dir = true) : t'.opens cwd dir = true := by
  obtain ⟨walked, found⟩ := opens_iff.1 opened
  have walked' := walk_of_keeps (fun _ => False) (fun p inside _ => keeps p inside)
    (fun _ _ _ => id) walked found id
  exact opens_iff.2 ⟨walked'.1, keeps _ found⟩

theorem mem_pathParts_of_outerParts (member : other ∈ outerParts dir) : other ∈ pathParts dir := by
  unfold outerParts at member
  split at member
  · cases member
  · split at member
    · exact (List.dropLast_subset _) member
    · exact member

/-- The directory of a file opens if its path never goes back and its names can be followed in some
tree. -/
theorem opens_of_file (nested : t.Nested) (forward : ".." ∉ pathParts dir)
    (opened : t'.opens cwd dir = true) (file : t.file? (home cwd dir ++ [name]) = some bytes) :
    t.opens cwd dir = true := by
  have inside : t.isDirectory (home cwd dir) = true := by
    apply nested _ name
    rw [file?_eq_some_iff.1 file]
    rfl
  have forward' : ".." ∉ outerParts dir := by
    intro member
    exact forward (mem_pathParts_of_outerParts member)
  have walked := (walk_of_nested nested forward' (opens_iff.1 opened).1 inside).1
  exact opens_iff.2 ⟨walked, inside⟩

/-- Writing a file keeps the directories, and all other files. -/
theorem directory_writeBytes (fileName : IsFileName name)
    (written : t.writeBytes cwd (joinPath dir name) bytes = .ok t') {p : Place}
    (found : t.isDirectory p = true) : t'.isDirectory p = true := by
  obtain ⟨-, free, rfl⟩ := writeBytes_eq_ok fileName written
  exact isDirectory_put_file (by simp) free found

theorem file?_writeBytes (fileName : IsFileName name)
    (written : t.writeBytes cwd (joinPath dir name) bytes = .ok t') (p : Place) :
    t'.file? p = if p = home cwd dir ++ [name] then some bytes else t.file? p := by
  obtain ⟨-, -, rfl⟩ := writeBytes_eq_ok fileName written
  split
  · rename_i same
    apply file?_eq_some_iff.2
    rw [item?_put (by simp), if_pos same]
  · rename_i other
    apply file?_congr
    rw [item?_put (by simp), if_neg other]

/-- A renamed file is at its new place, and its directory stays open. -/
theorem of_renameFile_eq_ok (fileName : IsFileName name) (fileName' : IsFileName other)
    (renamed : t.renameFile cwd (joinPath dir name) (joinPath dir other) = .ok t') :
    t'.opens cwd dir = true ∧
      t'.file? (home cwd dir ++ [other]) = t.file? (home cwd dir ++ [name]) := by
  obtain ⟨-, opened, free, bytes, item, rfl⟩ := renameFile_eq_ok fileName fileName' renamed
  obtain ⟨walked, found⟩ := opens_iff.1 opened
  have file : t.isDirectory (home cwd dir ++ [name]) = false := by
    rw [← Bool.not_eq_true, isDirectory_iff, item]
    simp
  have outside : ¬ home cwd dir ++ [name] <+: home cwd dir := by
    intro within
    have long := within.length_le
    rw [List.length_append, List.length_singleton] at long
    omega
  have keeps : ∀ p, t.isDirectory p = true → ¬ home cwd dir ++ [name] <+: p →
      ((t.remove (home cwd dir ++ [name])).put (home cwd dir ++ [other])
        (.file bytes)).isDirectory p = true := by
    intro p inside apart
    have ne : p ≠ home cwd dir ++ [other] := by
      rintro rfl
      rw [inside] at free
      cases free
    rw [isDirectory_iff] at inside ⊢
    rw [item?_put (by simp), if_neg ne, item?_remove apart, inside]
  have walked' := walk_of_keeps (fun p => home cwd dir ++ [name] <+: p) keeps
    (fun p turn inside within => prefix_turn file inside within) walked found outside
  refine ⟨opens_iff.2 ⟨walked'.1, keeps _ found outside⟩, ?_⟩
  rw [file?_eq_some_iff.2 item]
  apply file?_eq_some_iff.2
  rw [item?_put (by simp), if_pos rfl]

end FileTree

end ConsoleView
