/-
# ConsoleView.Document.Compile -- making declarative attributes live

Compiling a node activates the declarative attributes of its subtree under a
scope.  An attribute of a node is activated once: the first scope stays, and a
second compilation finds nothing to do.
-/
import ConsoleView.Document.Edit

namespace ConsoleView.Document

set_option autoImplicit false

def isLive (bindings : List ActiveBinding) (n : NodeId) (name : String) : Bool :=
  bindings.any fun b => b.node == n && b.name == name

def attributePairs (d : Document) (n : NodeId) : List (String × String) :=
  match d.nodes[n]? with
  | some { content := .element _ attributes, .. } => attributes.pairs
  | _ => []

/-- The declarative attributes of a node, as bindings under a scope. -/
def bindingsOf (d : Document) (scope : Scope) (n : NodeId) : List ActiveBinding :=
  (d.attributePairs n).filterMap fun pair =>
    if d.bindingAttributes.contains pair.1 then
      some { node := n, name := pair.1, expression := pair.2, scope }
    else none

/-- Add a binding at the end unless its attribute is live. -/
def activate (bindings : List ActiveBinding) (b : ActiveBinding) : List ActiveBinding :=
  if isLive bindings b.node b.name then bindings else bindings ++ [b]

/-- Activate the subtree of a node under a scope; the number is how many bindings became live. -/
def compile (d : Document) (n : NodeId) (scope : Scope) : Except ViewError (Document × Nat) :=
  if n < d.size then
    let bindings := ((d.subtree n).flatMap (d.bindingsOf scope)).foldl activate d.bindings
    .ok ({ d with bindings }, bindings.length - d.bindings.length)
  else .error (.nodeNotFound n)

theorem length_le_length_activate (bindings : List ActiveBinding) (b : ActiveBinding) :
    bindings.length ≤ (activate bindings b).length := by
  unfold activate
  split <;> simp

end ConsoleView.Document
