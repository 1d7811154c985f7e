/-
# ConsoleView.Toml.Tree -- tables while a file is read

A table can be opened by its header, implied by the header of a table inside
it, or made by a dotted key; this decides who may still add to it.  A header may
open a table that is only implied.  A dotted key may go through tables that no
header has opened, and end in one that dotted keys made.  A name is bound once.
Where a path meets a list of tables it goes on in the last of them.
-/
import ConsoleView.Toml.Basic

namespace ConsoleView.Toml

set_option autoImplicit false

/-- How a table came to be. -/
inductive Origin where
  | opened
  | implied
  | dotted
deriving DecidableEq, Repr

/-- What a name is bound to while a file is read. -/
inductive Item where
  | leaf (value : Toml)
  | table (origin : Origin) (entries : List (String × Item))
  /-- A list of tables, the last one first. -/
  | tables (elements : List (List (String × Item)))
deriving Inhabited

abbrev Items := List (String × Item)

def setItem (name : String) (item : Item) : Items → Items
  | [] => []
  | (n, i) :: rest => if n = name then (n, item) :: rest else (n, i) :: setItem name item rest

def addItem (name : String) (item : Item) (items : Items) : Option Items :=
  match items.lookup name with
  | some _ => none
  | none => some (items ++ [(name, item)])

def bindKey (value : Toml) : (path : List String) → (name : String) → Items → Option Items
  | [], name, items => addItem name (.leaf value) items
  | head :: path, name, items =>
      match items.lookup head with
      | none => do
          let inner ← bindKey value path name []
          addItem head (.table .dotted inner) items
      | some (.table .dotted inner) => do
          let inner ← bindKey value path name inner
          some (setItem head (.table .dotted inner) items)
      | some (.table .implied inner) =>
          if path.isEmpty then none
          else do
            let inner ← bindKey value path name inner
            some (setItem head (.table .implied inner) items)
      | some (.tables (last :: earlier)) =>
          if path.isEmpty then none
          else do
            let last ← bindKey value path name last
            some (setItem head (.tables (last :: earlier)) items)
      | some _ => none

/-- Change the table a path leads to; tables that are missing are implied. -/
def within (change : Items → Option Items) : (path : List String) → Items → Option Items
  | [], items => change items
  | head :: path, items =>
      match items.lookup head with
      | none => do
          let inner ← within change path []
          addItem head (.table .implied inner) items
      | some (.table origin inner) => do
          let inner ← within change path inner
          some (setItem head (.table origin inner) items)
      | some (.tables (last :: earlier)) => do
          let last ← within change path last
          some (setItem head (.tables (last :: earlier)) items)
      | some _ => none

def openTable (name : String) (items : Items) : Option Items :=
  match items.lookup name with
  | none => addItem name (.table .opened []) items
  | some (.table .implied inner) => some (setItem name (.table .opened inner) items)
  | some _ => none

/-- Open one more table of a list. -/
def openElement (name : String) (items : Items) : Option Items :=
  match items.lookup name with
  | none => addItem name (.tables [[]]) items
  | some (.tables elements) => some (setItem name (.tables ([] :: elements)) items)
  | some _ => none

/-! ## The values -/

mutual

def Item.value : Item → Toml
  | .leaf value => value
  | .table _ entries => .table (entryValues entries)
  | .tables elements => .array (elementValues elements).reverse

def entryValues : List (String × Item) → List (String × Toml)
  | [] => []
  | (name, item) :: rest => (name, item.value) :: entryValues rest

def elementValues : List (List (String × Item)) → List Toml
  | [] => []
  | entries :: rest => .table (entryValues entries) :: elementValues rest

end

end ConsoleView.Toml
