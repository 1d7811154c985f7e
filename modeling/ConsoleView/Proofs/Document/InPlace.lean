/-
# ConsoleView.Proofs.Document.InPlace -- edits of a document that is changed step by step

The operations of a document give a new document or an error.  Here they are
programs over one document that they change as they go: a node is pushed before
there is anything inside it, a child is linked once it is there as a whole, and
a node that is replaced is cut out of its parent's children before it loses its
parent.  What a program has done before it fails stays done.

`Call.inPlace_eq` joins the two: a program ends as its operation says, and if it
fails the document is the one it started from.  So no program fails after its
first change, although a replacement asks for an insertion that can fail.
-/
import ConsoleView.Proofs.Document.Run

namespace ConsoleView

set_option autoImplicit false

/-- A program over a document.  What it has done before it fails stays done. -/
abbrev InPlace (α : Type) := EStateM ViewError Document α

namespace Document

def extend (d : Document) (nodes : List Node) : Document :=
  { d with nodes := d.nodes ++ nodes.toArray }

def withBindings (d : Document) (bindings : List ActiveBinding) : Document := { d with bindings }

end Document

namespace InPlace

/-! ## Programs -/

def require (n : NodeId) : InPlace Unit := do
  let d ← get
  if n < d.size then return () else throw (.nodeNotFound n)

/-- Put one node at the end, with nothing inside it yet. -/
def push (content : NodeContent) (parent : NodeId) : InPlace NodeId := do
  let d ← get
  set (d.extend [{ content, parent := some parent, children := [] }])
  return d.size

def link (n : NodeId) (change : List NodeId → List NodeId) : InPlace Unit :=
  modify fun d => d.relink n change

mutual

/-- Put a tree at the end, node by node, each before those inside it. -/
def plant (parent : NodeId) : Markup → InPlace NodeId
  | .text content => push (.text content) parent
  | .element tag attributes children => do
      let n ← push (.element tag attributes) parent
      plantAll n children
      return n

/-- Put trees into a node, one after another; each is linked once it is there. -/
def plantAll (parent : NodeId) : List Markup → InPlace Unit
  | [] => return ()
  | m :: rest => do
      let n ← plant parent m
      link parent (· ++ [n])
      plantAll parent rest

end

def createAnchor (tag : String) : InPlace NodeId := do
  let n ← plant Document.root (Element.named tag).toMarkup
  link Document.root (· ++ [n])
  return n

def append (parent : NodeId) (m : Markup) : InPlace NodeId := do
  require parent
  let n ← plant parent m
  link parent (· ++ [n])
  return n

/-- The place of the reference is looked up before anything is changed. -/
def insertBefore (parent : NodeId) (m : Markup) (reference : NodeId) : InPlace NodeId := do
  require parent
  let d ← get
  match (d.children parent).idxOf? reference with
  | none => throw (.nodeNotFound reference)
  | some i =>
      let n ← plant parent m
      link parent (·.insertIdx i n)
      return n

/-- The insertion can fail; only after it the node is cut out and loses its parent. -/
def replaceWith (n : NodeId) (m : Markup) : InPlace NodeId := do
  require n
  let d ← get
  match d.parent? n with
  | none => throw (.nodeNotFound n)
  | some parent =>
      let new ← insertBefore parent m n
      link parent (·.filter (· ≠ n))
      modify fun d => d.orphan n
      return new

def mountMarkup (anchor : NodeId) (descriptor : Descriptor) (m : Markup) : InPlace NodeId :=
  if descriptor.replaces then replaceWith anchor m else append anchor m

/-- Make the attributes live that are not, and count them. -/
def activateAll : List ActiveBinding → InPlace Nat
  | [] => return 0
  | b :: rest => do
      let d ← get
      if Document.isLive d.bindings b.node b.name then activateAll rest
      else
        set (d.withBindings (d.bindings ++ [b]))
        return (← activateAll rest) + 1

def compile (n : NodeId) (scope : Scope) : InPlace Nat := do
  require n
  let d ← get
  activateAll ((d.subtree n).flatMap (d.bindingsOf scope))

/-- The program that does an edit at once, and nothing if the edit fails. -/
def atOnce {α : Type} (edit : Document → Except ViewError (Document × α)) : InPlace α := fun d =>
  match edit d with
  | .ok (d', result) => .ok result d'
  | .error e => .error e d

end InPlace

def Call.inPlace : Call → InPlace Nat
  | createAnchor tag => InPlace.createAnchor tag
  | append parent m => InPlace.append parent m
  | insertBefore parent m reference => InPlace.insertBefore parent m reference
  | replaceWith n m => InPlace.replaceWith n m
  | mount anchor descriptor m => InPlace.mountMarkup anchor descriptor m
  | compile n scope => InPlace.compile n scope

/-! ## Steps in another order -/

namespace Document

section Steps

variable {d : Document} {n : Nat} {nodes : List Node} {f g : List Nat → List Nat}

theorem ext_nodes {d' : Document} (nodes : ∀ x : Nat, d'.nodes[x]? = d.nodes[x]?)
    (attributes : d'.bindingAttributes = d.bindingAttributes) (live : d'.bindings = d.bindings) :
    d' = d := by
  cases d
  cases d'
  cases attributes
  cases live
  congr 1
  exact Array.ext_getElem? nodes

@[simp] theorem size_extend (d : Document) (nodes : List Node) :
    (d.extend nodes).size = d.size + nodes.length := by
  simp [extend, size]

theorem extend_extend (d : Document) (front back : List Node) :
    (d.extend front).extend back = d.extend (front ++ back) := by
  simp [extend, Array.append_assoc]

theorem layOut_eq_extend (d : Document) (p : Nat) (m : Markup) :
    d.layOut p m = d.extend (m.layout p d.size) := rfl

theorem relink_append_nil (d : Document) (n : Nat) : d.relink n (· ++ []) = d := by
  refine ext_nodes (fun x => ?_) rfl rfl
  simp only [relink, List.append_nil, Array.getElem?_modify]
  split <;> simp

theorem relink_relink (d : Document) (n : Nat) (f g : List Nat → List Nat) :
    (d.relink n f).relink n g = d.relink n (g ∘ f) := by
  refine ext_nodes (fun x => ?_) rfl rfl
  simp only [relink, Array.getElem?_modify]
  split <;> simp [Function.comp_def]

theorem relink_congr (same : f (d.children n) = g (d.children n)) : d.relink n f = d.relink n g := by
  refine ext_nodes (fun x => ?_) rfl rfl
  simp only [relink, Array.getElem?_modify]
  split
  · rename_i here
    subst here
    cases found : d.nodes[n]? with
    | none => rfl
    | some node =>
        rw [children_of_node found] at same
        simp only [Option.map_some, same]
  · rfl

/-- Nodes that come to stand behind a node do not depend on its children. -/
theorem extend_relink (inside : n < d.size) :
    (d.relink n f).extend nodes = (d.extend nodes).relink n f := by
  refine ext_nodes (fun x => ?_) rfl rfl
  have sizes : (d.relink n f).nodes.size = d.nodes.size := size_relink d n f
  by_cases old : x < d.nodes.size
  · simp only [extend, relink, Array.getElem?_modify]
    rw [Array.getElem?_append_left (by simpa using old), Array.getElem?_append_left old,
      Array.getElem?_modify]
  · have ne : n ≠ x := fun same => old (same ▸ inside)
    simp only [extend, relink, Array.getElem?_modify, if_neg ne]
    rw [Array.getElem?_append_right (by simpa using old), Array.getElem?_append_right (by omega),
      Array.size_modify]

/-- Linking children into the first new node. -/
theorem relink_extend_first (d : Document) (node : Node) (rest : List Node)
    (f : List Nat → List Nat) :
    (d.extend (node :: rest)).relink d.size f =
      d.extend ({ node with children := f node.children } :: rest) := by
  refine ext_nodes (fun x => ?_) rfl rfl
  simp only [extend, relink, Array.getElem?_modify]
  rcases Nat.lt_trichotomy x d.nodes.size with old | same | new
  · have ne : d.size ≠ x := Nat.ne_of_gt old
    rw [Array.getElem?_append_left old, Array.getElem?_append_left old, if_neg ne]
  · subst same
    simp [size]
  · obtain ⟨k, rfl⟩ : ∃ k, x = d.nodes.size + (k + 1) := ⟨x - d.nodes.size - 1, by omega⟩
    simp [size, Array.getElem?_append_right]

end Steps

end Document

/-! ## What the programs do -/

namespace InPlace

section Runs

variable {d : Document} {n p : Nat} {m : Markup}

theorem run_require_of_lt (inside : n < d.size) : (require n).run d = .ok () d := by
  simp only [require, EStateM.run_bind, EStateM.run_get, if_pos inside, EStateM.run_pure]

theorem run_require_of_le (outside : ¬ n < d.size) :
    (require n).run d = .error (.nodeNotFound n) d := by
  simp only [require, EStateM.run_bind, EStateM.run_get, if_neg outside, EStateM.run_throw]

theorem run_push (content : NodeContent) :
    (push content p).run d =
      .ok d.size (d.extend [{ content, parent := some p, children := [] }]) := by
  simp only [push, EStateM.run_bind, EStateM.run_get, EStateM.run_set, EStateM.run_pure]

theorem run_link (change : List Nat → List Nat) :
    (link n change).run d = .ok () (d.relink n change) := by
  simp only [link, EStateM.run_modify]

mutual

theorem run_plant (d : Document) (p : Nat) (m : Markup) :
    (plant p m).run d = .ok d.size (d.layOut p m) := by
  match m with
  | .text content => simp only [plant, run_push, Document.layOut_eq_extend, Markup.layout]
  | .element tag attributes children =>
      let bare : Node := { content := .element tag attributes, parent := some p, children := [] }
      have sizes : (d.extend [bare]).size = d.size + 1 := Document.size_extend d [bare]
      have inner := run_plantAll (d.extend [bare]) (p := d.size) children (by omega)
      rw [sizes, Document.extend_extend, List.singleton_append, Document.relink_extend_first]
        at inner
      simp only [plant, EStateM.run_bind, run_push, EStateM.run_pure]
      rw [inner, Document.layOut_eq_extend, Markup.layout, List.nil_append]

theorem run_plantAll (d : Document) {p : Nat} (ms : List Markup) (inside : p < d.size) :
    (plantAll p ms).run d = .ok ()
      ((d.extend (Markup.layoutAll p d.size ms)).relink p (· ++ Markup.rootsFrom d.size ms)) := by
  match ms with
  | [] =>
      have same : d.extend [] = d := by simp [Document.extend]
      simp only [plantAll, EStateM.run_pure, Markup.layoutAll, Markup.rootsFrom, same,
        Document.relink_append_nil]
  | m :: rest =>
      have inside' : p < (d.layOut p m).size := by rw [Document.size_layOut]; omega
      have sizes : ((d.layOut p m).relink p (· ++ [d.size])).size = d.size + m.nodeCount := by
        rw [Document.size_relink, Document.size_layOut]
      have later := run_plantAll ((d.layOut p m).relink p (· ++ [d.size])) rest
        (by rw [Document.size_relink]; exact inside')
      simp only [plantAll, EStateM.run_bind, run_link, run_plant d p m]
      rw [later, sizes, Document.extend_relink inside', Document.relink_relink,
        Document.layOut_eq_extend, Document.extend_extend, Markup.layoutAll, Markup.rootsFrom]
      simp only [Function.comp_def, List.append_assoc, List.singleton_append]

end

/-- A program is what it does to every document. -/
theorem ext_run {α : Type} {program other : InPlace α}
    (same : ∀ d, program.run d = other.run d) : program = other :=
  funext same

theorem run_atOnce {α : Type} (edit : Document → Except ViewError (Document × α)) (d : Document) :
    (atOnce edit).run d =
      match edit d with
      | .ok (d', result) => .ok result d'
      | .error e => .error e d := rfl

theorem createAnchor_eq (tag : String) :
    createAnchor tag = atOnce fun d => .ok (d.createAnchor tag) := by
  refine ext_run fun d => ?_
  simp only [createAnchor, EStateM.run_bind, run_plant, run_link, EStateM.run_pure, run_atOnce]
  rfl

theorem append_eq (p : Nat) (m : Markup) : append p m = atOnce fun d => d.append p m := by
  refine ext_run fun d => ?_
  by_cases inside : p < d.size
  · have done : d.append p m = .ok (d.adopt p m, d.size) := if_pos inside
    simp only [append, EStateM.run_bind, run_require_of_lt inside, run_plant, run_link,
      EStateM.run_pure, run_atOnce, done]
    rfl
  · have failed : d.append p m = .error (.nodeNotFound p) := if_neg inside
    simp only [append, EStateM.run_bind, run_require_of_le inside, run_atOnce, failed]

/-- The place before which a tree is put is that of the first reference. -/
theorem insertBeforeIn_eq_insertIdx {new r i : Nat} {xs : List Nat} (place : xs.idxOf? r = some i) :
    Document.insertBeforeIn new r xs = xs.insertIdx i new := by
  induction xs generalizing i with
  | nil => cases place
  | cons x xs ih =>
      rw [List.idxOf?_cons] at place
      by_cases first : x = r
      · rw [if_pos (by simpa using first)] at place
        cases place
        rw [Document.insertBeforeIn, if_pos first, List.insertIdx_zero]
      · rw [if_neg (by simpa using first)] at place
        obtain ⟨j, found, rfl⟩ := Option.map_eq_some_iff.1 place
        rw [Document.insertBeforeIn, if_neg first, ih found, List.insertIdx_succ_cons]

theorem insertBefore_eq (p : Nat) (m : Markup) (r : Nat) :
    insertBefore p m r = atOnce fun d => d.insertBefore p m r := by
  refine ext_run fun d => ?_
  by_cases inside : p < d.size
  · cases place : (d.children p).idxOf? r with
    | none =>
        have absent : r ∉ d.children p := List.idxOf?_eq_none_iff.1 place
        have failed : d.insertBefore p m r = .error (.nodeNotFound r) := by
          rw [Document.insertBefore, if_pos inside, if_neg absent]
        simp only [insertBefore, EStateM.run_bind, run_require_of_lt inside, EStateM.run_get, place,
          run_atOnce, failed]
        rfl
    | some i =>
        have member : r ∈ d.children p := by
          by_contra absent
          rw [List.idxOf?_eq_none_iff.2 absent] at place
          cases place
        have kept : (d.layOut p m).children p = d.children p := by
          rw [Document.children, Document.node_layOut_of_lt inside, Document.children]
        have same : (d.layOut p m).relink p (Document.insertBeforeIn d.size r) =
            (d.layOut p m).relink p (·.insertIdx i d.size) := by
          refine Document.relink_congr ?_
          rw [kept, insertBeforeIn_eq_insertIdx place]
        have done : d.insertBefore p m r =
            .ok ((d.layOut p m).relink p (·.insertIdx i d.size), d.size) := by
          rw [Document.insertBefore, if_pos inside, if_pos member, same]
        simp only [insertBefore, EStateM.run_bind, run_require_of_lt inside, EStateM.run_get, place,
          run_plant, run_link, EStateM.run_pure, run_atOnce, done]
  · have failed : d.insertBefore p m r = .error (.nodeNotFound p) := if_neg inside
    simp only [insertBefore, EStateM.run_bind, run_require_of_le inside, run_atOnce, failed]

theorem replaceWith_eq (n : Nat) (m : Markup) :
    replaceWith n m = atOnce fun d => d.replaceWith n m := by
  refine ext_run fun d => ?_
  by_cases inside : n < d.size
  · cases parent : d.parent? n with
    | none =>
        have failed : d.replaceWith n m = .error (.nodeNotFound n) := by
          rw [Document.replaceWith, if_pos inside, parent]
        simp only [replaceWith, EStateM.run_bind, run_require_of_lt inside, EStateM.run_get, parent,
          run_atOnce, failed]
        rfl
    | some p =>
        cases inserted : d.insertBefore p m n with
        | error e =>
            have failed : d.replaceWith n m = .error e := by
              rw [Document.replaceWith, if_pos inside, parent]
              simp only [inserted]
            simp only [replaceWith, EStateM.run_bind, run_require_of_lt inside, EStateM.run_get,
              parent, insertBefore_eq, run_atOnce, inserted, failed]
        | ok made =>
            obtain ⟨d', new⟩ := made
            have done : d.replaceWith n m =
                .ok ((d'.relink p (·.filter (· ≠ n))).orphan n, new) := by
              rw [Document.replaceWith, if_pos inside, parent]
              simp only [inserted]
            simp only [replaceWith, EStateM.run_bind, run_require_of_lt inside, EStateM.run_get,
              parent, insertBefore_eq, run_atOnce, inserted, run_link, EStateM.run_modify,
              EStateM.run_pure, done]
  · have failed : d.replaceWith n m = .error (.nodeNotFound n) := if_neg inside
    simp only [replaceWith, EStateM.run_bind, run_require_of_le inside, run_atOnce, failed]

theorem mountMarkup_eq (anchor : Nat) (descriptor : Descriptor) (m : Markup) :
    mountMarkup anchor descriptor m = atOnce fun d => d.mountMarkup anchor descriptor m := by
  unfold mountMarkup Document.mountMarkup
  split
  · exact replaceWith_eq anchor m
  · exact append_eq anchor m

theorem length_le_length_foldl_activate (new bindings : List ActiveBinding) :
    bindings.length ≤ (new.foldl Document.activate bindings).length := by
  induction new generalizing bindings with
  | nil => exact Nat.le_refl _
  | cons b rest ih =>
      exact Nat.le_trans (Document.length_le_length_activate bindings b) (ih _)

theorem run_activateAll (new : List ActiveBinding) (d : Document) :
    (activateAll new).run d =
      .ok ((new.foldl Document.activate d.bindings).length - d.bindings.length)
        (d.withBindings (new.foldl Document.activate d.bindings)) := by
  induction new generalizing d with
  | nil => simp only [activateAll, EStateM.run_pure, List.foldl_nil, Nat.sub_self]; rfl
  | cons b rest ih =>
      simp only [activateAll, EStateM.run_bind, EStateM.run_get, List.foldl_cons]
      by_cases live : Document.isLive d.bindings b.node b.name
      · rw [if_pos live, ih d, Document.activate, if_pos live]
      · have grown := length_le_length_foldl_activate rest (d.bindings ++ [b])
        rw [List.length_append, List.length_singleton] at grown
        have later : (activateAll rest).run (d.withBindings (d.bindings ++ [b])) =
            .ok ((rest.foldl Document.activate (d.bindings ++ [b])).length -
                (d.bindings.length + 1))
              (d.withBindings (rest.foldl Document.activate (d.bindings ++ [b]))) := by
          rw [ih]
          simp only [Document.withBindings, List.length_append, List.length_singleton]
        rw [if_neg live, Document.activate, if_neg live]
        simp only [EStateM.run_bind, EStateM.run_set, later, EStateM.run_pure]
        congr 1
        omega

theorem compile_eq (n : Nat) (scope : Scope) :
    compile n scope = atOnce fun d => d.compile n scope := by
  refine ext_run fun d => ?_
  by_cases inside : n < d.size
  · simp only [compile, EStateM.run_bind, run_require_of_lt inside, EStateM.run_get,
      run_activateAll, run_atOnce, Document.compile, if_pos inside]
    rfl
  · simp only [compile, EStateM.run_bind, run_require_of_le inside, run_atOnce, Document.compile,
      if_neg inside]

end Runs

end InPlace

/-- **A call done step by step ends as the call does at once**, and if it fails nothing has been
changed. -/
theorem Call.inPlace_eq (c : Call) : c.inPlace = InPlace.atOnce c.perform := by
  cases c with
  | createAnchor tag => exact InPlace.createAnchor_eq tag
  | append p m => exact InPlace.append_eq p m
  | insertBefore p m r => exact InPlace.insertBefore_eq p m r
  | replaceWith n m => exact InPlace.replaceWith_eq n m
  | mount anchor descriptor m => exact InPlace.mountMarkup_eq anchor descriptor m
  | compile n scope => exact InPlace.compile_eq n scope

end ConsoleView
