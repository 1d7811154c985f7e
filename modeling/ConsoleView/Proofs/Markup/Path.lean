/-
# ConsoleView.Proofs.Markup.Path -- places in a tree

A path names a place in a tree by the places among children on the way to it.
`at?` reads the tree at a path, `editAt` changes the children of the element
there and nothing else, and `paths` lists the places of a tree, each before
those inside it.  A text has no places inside it.
-/
import ConsoleView.Markup.Basic

namespace ConsoleView.Markup

set_option autoImplicit false

def at? : Markup → List Nat → Option Markup
  | m, [] => some m
  | .text _, _ :: _ => none
  | .element _ _ children, i :: path =>
      match children[i]? with
      | some child => child.at? path
      | none => none

/-- Change the children of the element at a path.  At a text, inside a text and outside the tree
there is nothing to change. -/
def editAt (change : List Markup → List Markup) : Markup → List Nat → Option Markup
  | .text _, _ => none
  | .element tag attributes children, [] => some (.element tag attributes (change children))
  | .element tag attributes children, i :: path =>
      match children[i]? with
      | some child =>
          (child.editAt change path).map fun edited =>
            .element tag attributes (children.set i edited)
      | none => none

mutual

def paths : Markup → List (List Nat)
  | .text _ => [[]]
  | .element _ _ children => [] :: pathsFrom 0 children

/-- The paths of children from place `i` on. -/
def pathsFrom (i : Nat) : List Markup → List (List Nat)
  | [] => []
  | m :: rest => m.paths.map (i :: ·) ++ pathsFrom (i + 1) rest

end

section

variable {change : List Markup → List Markup} {tag : String} {attributes : Attributes}
  {children : List Markup} {i : Nat} {path : List Nat} {child edited : Markup}

theorem at?_cons (place : children[i]? = some child) :
    (element tag attributes children).at? (i :: path) = child.at? path := by
  rw [at?, place]

theorem editAt_cons (place : children[i]? = some child)
    (inner : child.editAt change path = some edited) :
    (element tag attributes children).editAt change (i :: path) =
      some (.element tag attributes (children.set i edited)) := by
  rw [editAt, place]
  simp only [inner, Option.map_some]

end

end ConsoleView.Markup
