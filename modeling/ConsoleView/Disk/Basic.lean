/-
# ConsoleView.Disk.Basic -- the file operations of the program

The program touches files through these operations only.  They run in any monad:
in memory, where every state can be looked at, or on the disk of a computer.

A fault has the text of the operating system's message and its number where it
has one.  Two faults come before the operating system is asked: a file that is
not text, and a name no file can have.
-/
import ConsoleView.Disk.Path

namespace ConsoleView

set_option autoImplicit false

/-! ## Faults -/

inductive FileFault where
  | notFound
  | alreadyExists
  | notDirectory
  | isDirectory
  | nameTooLong
  | notEmpty
  /-- The bytes of a file are not UTF-8. -/
  | notText
  /-- The name has a NUL character. -/
  | nulInName
  | other (text : String)
deriving DecidableEq, Repr

def FileFault.text : FileFault → String
  | .notFound => "No such file or directory (os error 2)"
  | .alreadyExists => "File exists (os error 17)"
  | .notDirectory => "Not a directory (os error 20)"
  | .isDirectory => "Is a directory (os error 21)"
  | .nameTooLong => "File name too long (os error 36)"
  | .notEmpty => "Directory not empty (os error 39)"
  | .notText => "stream did not contain valid UTF-8"
  | .nulInName => "file name contained an unexpected NUL byte"
  | .other text => text

/-! ## Operations -/

/-- File operations in the monad `m`. -/
structure Disk (m : Type → Type) where
  /-- Whether there is a file or a directory. -/
  isPresent (path : String) : m Bool
  /-- Whether there is a directory. -/
  isDirectory (path : String) : m Bool
  /-- The text of a file. -/
  readText (path : String) : m (Except FileFault String)
  /-- Make a file with this text, or put the text in the place of a file's contents. -/
  writeText (path : String) (text : String) : m (Except FileFault Unit)
  /-- Give a file another path, in the place of the file that is there. -/
  renameFile (source target : String) : m (Except FileFault Unit)
  /-- Make a directory in a directory that is there. -/
  makeDirectory (path : String) : m (Except FileFault Unit)

namespace Disk

variable {m : Type → Type} [Monad m]

def ensureDirectory (disk : Disk m) (path : String) : m (Except FileFault Unit) := do
  match ← disk.makeDirectory path with
  | .error .alreadyExists =>
      if ← disk.isDirectory path then return .ok () else return .error .alreadyExists
  | made => return made

/-- Make the first of some directories, each of which is in the next.  The others are made only as
far as they are missing, and stay also if one further in cannot be made. -/
def ensureNested (disk : Disk m) : List String → m (Except FileFault Unit)
  | [] => return .ok ()
  | path :: outer => do
      match ← disk.ensureDirectory path with
      | .error .notFound =>
          match ← disk.ensureNested outer with
          | .ok () => disk.ensureDirectory path
          | fault => return fault
      | made => return made

def makeDirectories (disk : Disk m) (path : String) : m (Except FileFault Unit) :=
  disk.ensureNested (pathAncestors path)

end Disk

end ConsoleView
