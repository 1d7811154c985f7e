/-
# ConsoleView.Document.Edit -- putting markup into a document

A tree is laid out as new nodes at the end of the list, each before those
inside it; then its root is linked into the children of its parent.  A node's
position never changes and is never used again.  An operation that fails has
changed nothing.  A component's output comes to its anchor by one of these
operations (`mountMarkup`).
-/
import ConsoleView.Document.Basic
import ConsoleView.Error
import ConsoleView.Registry.Table

namespace ConsoleView

set_option autoImplicit false

/-! ## Layout -/

namespace Markup

/-- The positions of the roots of trees laid out one after another. -/
def rootsFrom (start : NodeId) : List Markup → List NodeId
  | [] => []
  | m :: rest => start :: rootsFrom (start + m.nodeCount) rest

mutual

/-- The nodes of a tree whose root comes to stand at `start`. -/
def layout (parent start : NodeId) : Markup → List Node
  | .text content => [{ content := .text content, parent := some parent, children := [] }]
  | .element tag attributes children =>
      { content := .element tag attributes
        parent := some parent
        children := rootsFrom (start + 1) children } :: layoutAll start (start + 1) children

def layoutAll (parent start : NodeId) : List Markup → List Node
  | [] => []
  | m :: rest => layout parent start m ++ layoutAll parent (start + m.nodeCount) rest

end

mutual

theorem length_layout (parent start : NodeId) (m : Markup) :
    (layout parent start m).length = m.nodeCount := by
  match m with
  | .text _ => rfl
  | .element _ _ children =>
      simp only [layout, nodeCount, List.length_cons, length_layoutAll start (start + 1) children]
      omega

theorem length_layoutAll (parent start : NodeId) (ms : List Markup) :
    (layoutAll parent start ms).length = nodeCountOfAll ms := by
  match ms with
  | [] => rfl
  | m :: rest =>
      simp only [layoutAll, nodeCountOfAll, List.length_append, length_layout parent start m,
        length_layoutAll parent (start + m.nodeCount) rest]

end

end Markup

namespace Document

/-! ## Parts of an edit -/

/-- Lay out a tree at the end of the list, as a child of `parent`; its root is at `d.size`. -/
def layOut (d : Document) (parent : NodeId) (m : Markup) : Document :=
  { d with nodes := d.nodes ++ (m.layout parent d.size).toArray }

def relink (d : Document) (n : NodeId) (change : List NodeId → List NodeId) : Document :=
  { d with nodes := d.nodes.modify n fun node => { node with children := change node.children } }

def orphan (d : Document) (n : NodeId) : Document :=
  { d with nodes := d.nodes.modify n fun node => { node with parent := none } }

theorem size_layOut (d : Document) (parent : NodeId) (m : Markup) :
    (d.layOut parent m).size = d.size + m.nodeCount := by
  simp [layOut, size, Markup.length_layout]

theorem size_relink (d : Document) (n : NodeId) (change : List NodeId → List NodeId) :
    (d.relink n change).size = d.size := by
  simp [relink, size]

theorem size_orphan (d : Document) (n : NodeId) : (d.orphan n).size = d.size := by
  simp [orphan, size]

/-- Put `new` immediately before the first `reference`. -/
def insertBeforeIn (new reference : NodeId) : List NodeId → List NodeId
  | [] => []
  | x :: xs => if x = reference then new :: x :: xs else x :: insertBeforeIn new reference xs

/-! ## Operations -/

/-- Put a tree last among the children of a node that is there. -/
def adopt (d : Document) (parent : NodeId) (m : Markup) : Document :=
  (d.layOut parent m).relink parent (· ++ [d.size])

/-- Put an empty element last under the root, as a page places a component's tag. -/
def createAnchor (d : Document) (tag : String) : Document × NodeId :=
  (d.adopt root (Element.named tag).toMarkup, d.size)

/-- Put a tree last among the children of `parent`. -/
def append (d : Document) (parent : NodeId) (m : Markup) :
    Except ViewError (Document × NodeId) :=
  if parent < d.size then .ok (d.adopt parent m, d.size) else .error (.nodeNotFound parent)

/-- Put a tree among the children of `parent`, immediately before `reference`. -/
def insertBefore (d : Document) (parent : NodeId) (m : Markup) (reference : NodeId) :
    Except ViewError (Document × NodeId) :=
  if parent < d.size then
    if reference ∈ d.children parent then
      .ok ((d.layOut parent m).relink parent (insertBeforeIn d.size reference), d.size)
    else .error (.nodeNotFound reference)
  else .error (.nodeNotFound parent)

/-- Put a tree where `n` is, and take `n` out of the document's tree. -/
def replaceWith (d : Document) (n : NodeId) (m : Markup) :
    Except ViewError (Document × NodeId) :=
  if n < d.size then
    match d.parent? n with
    | none => .error (.nodeNotFound n)
    | some parent =>
        match d.insertBefore parent m n with
        | .error e => .error e
        | .ok (d, new) => .ok ((d.relink parent (·.filter (· ≠ n))).orphan n, new)
  else .error (.nodeNotFound n)

/-- Put the output of a component at its anchor: in its place, or last inside it. -/
def mountMarkup (d : Document) (anchor : NodeId) (descriptor : Descriptor) (m : Markup) :
    Except ViewError (Document × NodeId) :=
  if descriptor.replaces then d.replaceWith anchor m else d.append anchor m

end Document

end ConsoleView
