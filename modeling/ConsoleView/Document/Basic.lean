/-
# ConsoleView.Document.Basic -- a document as a list of nodes

A node knows its content, its parent and its children; nodes refer to each
other by their position in the list.  Node 0 is the root.  A child always stands
behind its parent, so the walks below never need more steps than there are
nodes; that number is their fuel.
-/
import ConsoleView.Markup.Html
import ConsoleView.Scope

namespace ConsoleView

set_option autoImplicit false

abbrev NodeId := Nat

/-- A node without its relatives. -/
inductive NodeContent where
  | element (tag : String) (attributes : Attributes)
  | text (content : String)
deriving DecidableEq

structure Node where
  content : NodeContent
  parent : Option NodeId
  children : List NodeId
deriving DecidableEq

/-- A declarative attribute that is live, with the scope it was activated under. -/
structure ActiveBinding where
  node : NodeId
  name : String
  expression : String
  scope : Scope

structure Document where
  nodes : Array Node
  /-- The attributes that are declarative. -/
  bindingAttributes : List String
  /-- The live attributes in the order of their activation. -/
  bindings : List ActiveBinding

namespace Document

/-- The attributes that are always declarative. -/
def defaultBindingAttributes : List String := ["tooltip"]

def withRoot (tag : String) : Document where
  nodes := #[{ content := .element tag .empty, parent := none, children := [] }]
  bindingAttributes := defaultBindingAttributes
  bindings := []

/-- A document whose root is the body of a page. -/
def blank : Document := withRoot "body"

/-- Make one more attribute declarative. -/
def withBindingAttribute (d : Document) (name : String) : Document :=
  { d with bindingAttributes := name :: d.bindingAttributes }

def root : NodeId := 0

/-- How many nodes the document has; also the next node's position. -/
def size (d : Document) : Nat := d.nodes.size

def children (d : Document) (n : NodeId) : List NodeId :=
  match d.nodes[n]? with
  | some node => node.children
  | none => []

def parent? (d : Document) (n : NodeId) : Option NodeId := d.nodes[n]?.bind Node.parent

/-! ## Walks -/

/-- The tree below a node, as far as the fuel goes. -/
def markupFrom (d : Document) : (fuel : Nat) → NodeId → Option Markup
  | 0, _ => none
  | fuel + 1, n =>
      match d.nodes[n]? with
      | none => none
      | some { content := .text content, .. } => some (.text content)
      | some { content := .element tag attributes, children, .. } =>
          some (.element tag attributes (children.filterMap (markupFrom d fuel)))

def toMarkup (d : Document) (n : NodeId) : Option Markup := d.markupFrom d.size n

/-- The HTML of the tree below a node; no text if there is no such node. -/
def html (d : Document) (n : NodeId) : String :=
  match d.toMarkup n with
  | some m => m.html
  | none => ""

/-- A node and all below it, as far as the fuel goes. -/
def subtreeFrom (d : Document) : (fuel : Nat) → NodeId → List NodeId
  | 0, _ => []
  | fuel + 1, n => n :: (d.children n).flatMap (subtreeFrom d fuel)

/-- A node and all below it, each before those below it. -/
def subtree (d : Document) (n : NodeId) : List NodeId := d.subtreeFrom d.size n

end Document

end ConsoleView
