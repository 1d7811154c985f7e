/-
# ConsoleView.Disk.Path -- paths as texts

A path is its text; nothing in it is normalized.  Its parts are what stands
between the slashes.
-/
import ConsoleView.Text.Blank

namespace ConsoleView

set_option autoImplicit false

def isAbsolutePath (path : String) : Bool := path.toList.head? == some '/'

/-- A path seen from a directory.  An absolute path is the same from everywhere. -/
def joinPath (dir path : String) : String :=
  if isAbsolutePath path then path
  else if dir.isEmpty || dir.toList.getLast? == some '/' then dir ++ path
  else dir ++ "/" ++ path

def pathParts (path : String) : List String :=
  (Text.pieces (· == '/') path.toList).map String.ofList

/-- Whether a part of a path leads nowhere else. -/
def staysHere (part : String) : Bool := part.isEmpty || part == "."

/-- A path and the directories that it goes through, the innermost first.  Only a part that leads
somewhere has a directory of its own. -/
def pathAncestors (path : String) : List String :=
  let names := (pathParts path).filter fun part => !staysHere part
  let start := if isAbsolutePath path then "/" else ""
  let inner (n : Nat) : String := start ++ String.intercalate "/" (names.take (n + 1))
  if path.isEmpty then [] else path :: (List.range (names.length - 1)).reverse.map inner

example : joinPath "/etc/console" "templates" = "/etc/console/templates" := by decide +kernel
example : joinPath "rel/" "" = "rel/" := by decide +kernel
example : pathParts "/a//b" = ["", "a", "", "b"] := by decide +kernel
example : pathAncestors "a/../b/./" = ["a/../b/./", "a/..", "a"] := by decide +kernel

end ConsoleView
