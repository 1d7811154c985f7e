/-
# ConsoleView.Markup.Basic -- trees of elements and texts

Components build trees, not strings; the host decides where a tree lands in its
document and when it becomes a string.  Elements are built by adding one thing
after another, each at the end.
-/
import ConsoleView.Markup.Attributes
import ConsoleView.Text.Blank

namespace ConsoleView

set_option autoImplicit false

/-- A text, or an element with attributes and children in order. -/
inductive Markup where
  | element (tag : String) (attributes : Attributes) (children : List Markup)
  | text (content : String)
deriving Inhabited

namespace Markup

mutual

def decideEq : (a b : Markup) → Decidable (a = b)
  | .text s, .text t =>
      if h : s = t then isTrue (congrArg Markup.text h)
      else isFalse fun e => by cases e; exact h rfl
  | .text _, .element _ _ _ => isFalse nofun
  | .element _ _ _, .text _ => isFalse nofun
  | .element t xs cs, .element u ys ds =>
      if same : t = u ∧ xs = ys then
        match decideEqAll cs ds with
        | isTrue h => isTrue (by rw [same.1, same.2, h])
        | isFalse h => isFalse fun e => by cases e; exact h rfl
      else isFalse fun e => by cases e; exact same ⟨rfl, rfl⟩

def decideEqAll : (cs ds : List Markup) → Decidable (cs = ds)
  | [], [] => isTrue rfl
  | [], _ :: _ => isFalse nofun
  | _ :: _, [] => isFalse nofun
  | c :: cs, d :: ds =>
      match decideEq c d, decideEqAll cs ds with
      | isTrue h, isTrue g => isTrue (by rw [h, g])
      | isFalse h, _ => isFalse fun e => by cases e; exact h rfl
      | _, isFalse g => isFalse fun e => by cases e; exact g rfl

end

instance : DecidableEq Markup := decideEq

end Markup

/-! ## Elements -/

structure Element where
  tag : String
  attributes : Attributes := .empty
  children : List Markup := []
deriving DecidableEq, Inhabited

def Element.toMarkup (e : Element) : Markup := .element e.tag e.attributes e.children

instance : Coe Element Markup := ⟨Element.toMarkup⟩

def Markup.element? : Markup → Option Element
  | .element tag attributes children => some ⟨tag, attributes, children⟩
  | .text _ => none

namespace Element

def named (tag : String) : Element := { tag }

def attribute? (e : Element) (name : String) : Option String := e.attributes.get? name

def withAttribute (e : Element) (name value : String) : Element :=
  { e with attributes := e.attributes.set name value }

/-- Add class tokens after those that are there; blank text adds nothing. -/
def withClass (e : Element) (tokens : String) : Element :=
  let added := Text.trim tokens
  if added.isEmpty then e
  else
    match e.attribute? "class" with
    | none => e.withAttribute "class" added
    | some present =>
        if present.isEmpty then e.withAttribute "class" added
        else e.withAttribute "class" (present ++ " " ++ added)

def withChild (e : Element) (child : Markup) : Element :=
  { e with children := e.children ++ [child] }

def withText (e : Element) (content : String) : Element := e.withChild (.text content)

def classTokens (e : Element) : List String := Text.words ((e.attribute? "class").getD "")

def hasClass (e : Element) (token : String) : Bool := e.classTokens.contains token

def childElements (e : Element) : List Element := e.children.filterMap Markup.element?

end Element

/-! ## What is in a tree -/

namespace Markup

mutual

/-- The texts of a tree, one after another. -/
def textContent : Markup → String
  | .text content => content
  | .element _ _ children => textOfAll children

def textOfAll : List Markup → String
  | [] => ""
  | m :: rest => textContent m ++ textOfAll rest

end

mutual

/-- The elements of a tree, each before those inside it. -/
def elements : Markup → List Element
  | .text _ => []
  | .element tag attributes children => ⟨tag, attributes, children⟩ :: elementsOfAll children

def elementsOfAll : List Markup → List Element
  | [] => []
  | m :: rest => elements m ++ elementsOfAll rest

end

mutual

def nodeCount : Markup → Nat
  | .text _ => 1
  | .element _ _ children => 1 + nodeCountOfAll children

def nodeCountOfAll : List Markup → Nat
  | [] => 0
  | m :: rest => nodeCount m + nodeCountOfAll rest

end

end Markup

def Element.textContent (e : Element) : String := e.toMarkup.textContent

end ConsoleView
