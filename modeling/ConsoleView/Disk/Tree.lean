/-
# ConsoleView.Disk.Tree -- files and directories in memory

A place is the list of names from the root.  A tree knows for each place in use
whether it is a directory or a file with some bytes; the root is a directory.
Paths are walked name by name, and the walk says why it cannot go on: from a
file there is no way on, and a name that is not there leads nowhere.
-/
import ConsoleView.Disk.Basic

namespace ConsoleView

set_option autoImplicit false

/-- The names from the root. -/
abbrev Place := List String

inductive FileItem where
  | file (bytes : ByteArray)
  | directory

def FileItem.isDirectory : FileItem → Bool
  | .directory => true
  | .file _ => false

/-- Files and directories by their places. -/
structure FileTree where
  items : List (Place × FileItem) := []

namespace FileTree

def empty : FileTree := {}

/-! ## Places -/

def item? (t : FileTree) (place : Place) : Option FileItem :=
  if place.isEmpty then some .directory else t.items.lookup place

def isDirectory (t : FileTree) (place : Place) : Bool :=
  match t.item? place with
  | some .directory => true
  | _ => false

def put (t : FileTree) (place : Place) (item : FileItem) : FileTree :=
  ⟨(place, item) :: t.items.filter fun e => e.1 != place⟩

/-- Take away a place and all places in it. -/
def remove (t : FileTree) (place : Place) : FileTree :=
  ⟨t.items.filter fun e => !place.isPrefixOf e.1⟩

/-- The places in a directory with their items, seen from it. -/
def below (t : FileTree) (place : Place) : List (Place × FileItem) :=
  t.items.filterMap fun e =>
    if place.isPrefixOf e.1 && e.1 != place then some (e.1.drop place.length, e.2) else none

/-! ## Walks -/

/-- The longest name, in bytes. -/
def maxName : Nat := 255

/-- The first length of a path, in bytes, that is too long. -/
def pathBound : Nat := 4096

/-- A path that no walk can follow. -/
def checkPath (path : String) : Except FileFault Unit :=
  if path.toList.contains (Char.ofNat 0) then .error .nulInName
  else if path.isEmpty then .error .notFound
  else if pathBound ≤ path.utf8ByteSize then .error .nameTooLong
  else .ok ()

def step (t : FileTree) (here : Place) (name : String) : Except FileFault Place :=
  if !t.isDirectory here then .error .notDirectory
  else if name = "" ∨ name = "." then .ok here
  else if name = ".." then .ok here.dropLast
  else if maxName < name.utf8ByteSize then .error .nameTooLong
  else
    match t.item? (here ++ [name]) with
    | some _ => .ok (here ++ [name])
    | none => .error .notFound

def walk (t : FileTree) : Place → List String → Except FileFault Place
  | here, [] => .ok here
  | here, name :: rest =>
      match t.step here name with
      | .error fault => .error fault
      | .ok there => t.walk there rest

/-- Where a path starts when it is used in the directory `cwd`. -/
def origin (cwd : Place) (path : String) : Place := if isAbsolutePath path then [] else cwd

def find (t : FileTree) (cwd : Place) (path : String) : Except FileFault Place :=
  match checkPath path with
  | .error fault => .error fault
  | .ok () => t.walk (origin cwd path) (pathParts path)

/-- The place for a file of this path; the file need not be there, its directory must. -/
def findTarget (t : FileTree) (cwd : Place) (path : String) : Except FileFault Place :=
  match checkPath path with
  | .error fault => .error fault
  | .ok () =>
      let parts := pathParts path
      match t.walk (origin cwd path) parts.dropLast with
      | .error fault => .error fault
      | .ok dir =>
          let name := parts.getLast?.getD ""
          if !t.isDirectory dir then .error .notDirectory
          else if name = "" ∨ name = "." ∨ name = ".." then .error .isDirectory
          else if maxName < name.utf8ByteSize then .error .nameTooLong
          else .ok (dir ++ [name])

/-! ## Files -/

def readBytes (t : FileTree) (cwd : Place) (path : String) : Except FileFault ByteArray :=
  match t.find cwd path with
  | .error fault => .error fault
  | .ok place =>
      match t.item? place with
      | some (.file bytes) => .ok bytes
      | some .directory => .error .isDirectory
      | none => .error .notFound

def readText (t : FileTree) (cwd : Place) (path : String) : Except FileFault String :=
  match t.readBytes cwd path with
  | .error fault => .error fault
  | .ok bytes =>
      match String.fromUTF8? bytes with
      | some text => .ok text
      | none => .error .notText

/-- Make a file, or replace the bytes of one. -/
def writeBytes (t : FileTree) (cwd : Place) (path : String) (bytes : ByteArray) :
    Except FileFault FileTree :=
  match t.findTarget cwd path with
  | .error fault => .error fault
  | .ok place =>
      match t.item? place with
      | some .directory => .error .isDirectory
      | _ => .ok (t.put place (.file bytes))

def renameFile (t : FileTree) (cwd : Place) (source target : String) :
    Except FileFault FileTree :=
  match t.findTarget cwd source, t.findTarget cwd target with
  | .error fault, _ => .error fault
  | _, .error fault => .error fault
  | .ok old, .ok new =>
      match t.item? old, t.item? new with
      | none, _ => .error .notFound
      | some .directory, _ => .error .isDirectory
      | some (.file _), some .directory => .error .isDirectory
      | some (.file bytes), _ => .ok ((t.remove old).put new (.file bytes))

/-! ## Directories -/

/-- The parts of a path without the slashes at its end. -/
def directoryParts (path : String) : List String :=
  ((pathParts path).reverse.dropWhile String.isEmpty).reverse

/-- Whether a path leads to a directory. -/
def hasDirectory (t : FileTree) (cwd : Place) (path : String) : Bool :=
  match t.find cwd path with
  | .ok place => t.isDirectory place
  | .error _ => false

/-- Make a directory in a directory that is there. -/
def makeDirectory (t : FileTree) (cwd : Place) (path : String) : Except FileFault FileTree :=
  match checkPath path with
  | .error fault => .error fault
  | .ok () =>
      let parts := directoryParts path
      match t.walk (origin cwd path) parts.dropLast with
      | .error fault => .error fault
      | .ok outer =>
          let name := parts.getLast?.getD ""
          match t.step outer name with
          | .ok _ => .error .alreadyExists
          | .error .notFound => .ok (t.put (outer ++ [name]) .directory)
          | .error fault => .error fault

/-! ## The operations of a program whose current directory is `cwd` -/

/-- An operation that leaves the tree as it was when it fails. -/
def attempt (op : FileTree → Except FileFault FileTree) : StateM FileTree (Except FileFault Unit) :=
  fun t =>
    match op t with
    | .ok t => (.ok (), t)
    | .error fault => (.error fault, t)

def disk (cwd : Place) : Disk (StateM FileTree) where
  isPresent path := fun t => ((t.find cwd path).isOk, t)
  isDirectory path := fun t => (t.hasDirectory cwd path, t)
  readText path := fun t => (t.readText cwd path, t)
  writeText path text := attempt fun t => t.writeBytes cwd path text.toUTF8
  renameFile source target := attempt fun t => t.renameFile cwd source target
  makeDirectory path := attempt fun t => t.makeDirectory cwd path

/-! ## Laws of places -/

theorem item?_put {t : FileTree} {place other : Place} {item : FileItem} (ne : place ≠ []) :
    (t.put place item).item? other = if other = place then some item else t.item? other := by
  by_cases nil : other = []
  · subst nil
    simp [item?, Ne.symm ne]
  · have emptyOther : other.isEmpty = false := by simpa using nil
    by_cases h : other = place
    · subst h
      simp [item?, put, emptyOther]
    · simp only [item?, put, emptyOther, List.lookup_cons, beq_false_of_ne h, h, if_false,
        Bool.false_eq_true]
      induction t.items with
      | nil => rfl
      | cons e rest ih =>
          by_cases k : e.1 = place
          · have : (e.1 != place) = false := by simp [k]
            rw [List.filter_cons, this]
            simp only [Bool.false_eq_true, if_false, ih]
            obtain ⟨q, i⟩ := e
            simp only at k
            subst k
            simp [List.lookup_cons, beq_false_of_ne h]
          · have : (e.1 != place) = true := by simpa using k
            rw [List.filter_cons, this]
            obtain ⟨q, i⟩ := e
            simp only [if_true, List.lookup_cons, ih]

end FileTree

end ConsoleView
