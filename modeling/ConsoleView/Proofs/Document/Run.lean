/-
# ConsoleView.Proofs.Document.Run -- histories of a document

A document is opened with a root and with its declarative attributes, and then
only called.  A call that fails changes nothing.  What a call that succeeds can
do is said once, in `Forest.perform_cases`: it activates, or it splices a tree
under `Call.target?` and cuts out `Call.replaced?`.  Whatever splices and
activations keep, every run keeps (`run_induction`); facts about the history of
a run are about its splittings into what was before a call, the call, and what
came after (`Happened`).
-/
import ConsoleView.Document.Compile
import ConsoleView.Document.Edit
import ConsoleView.Proofs.Document.Forest

namespace ConsoleView

set_option autoImplicit false

inductive Call where
  | createAnchor (tag : String)
  | append (parent : NodeId) (m : Markup)
  | insertBefore (parent : NodeId) (m : Markup) (reference : NodeId)
  | replaceWith (n : NodeId) (m : Markup)
  | mount (anchor : NodeId) (descriptor : Descriptor) (m : Markup)
  | compile (n : NodeId) (scope : Scope)

namespace Call

/-- The new document, and the new node or how many bindings became live. -/
def perform (d : Document) : Call → Except ViewError (Document × Nat)
  | createAnchor tag => .ok (d.createAnchor tag)
  | append parent m => d.append parent m
  | insertBefore parent m reference => d.insertBefore parent m reference
  | replaceWith n m => d.replaceWith n m
  | mount anchor descriptor m => d.mountMarkup anchor descriptor m
  | compile n scope => d.compile n scope

def after (d : Document) (c : Call) : Document :=
  match c.perform d with
  | .ok (d', _) => d'
  | .error _ => d

/-- The node whose children a call changes if it succeeds. -/
def target? (d : Document) : Call → Option Nat
  | createAnchor _ => some Document.root
  | append parent _ => some parent
  | insertBefore parent _ _ => some parent
  | replaceWith n _ => d.parent? n
  | mount anchor descriptor _ => if descriptor.replaces then d.parent? anchor else some anchor
  | compile _ _ => none

/-- The node that a call takes out of the document's tree if it succeeds. -/
def replaced? : Call → Option Nat
  | replaceWith n _ => some n
  | mount anchor descriptor _ => if descriptor.replaces then some anchor else none
  | _ => none

def Succeeds (d : Document) (c : Call) : Prop := ∃ d' result, c.perform d = .ok (d', result)

theorem after_of_ok {d d' : Document} {c : Call} {result : Nat}
    (done : c.perform d = .ok (d', result)) : c.after d = d' := by
  rw [after, done]

theorem after_of_error {d : Document} {c : Call} (failed : ¬ c.Succeeds d) : c.after d = d := by
  unfold after
  split
  · rename_i d' result done
    exact absurd ⟨d', result, done⟩ failed
  · rfl

end Call

namespace Document

/-- A new document, with more declarative attributes. -/
def opened (tag : String) (attributes : List String) : Document :=
  attributes.foldl withBindingAttribute (withRoot tag)

def run (d : Document) (calls : List Call) : Document := calls.foldl Call.after d

theorem run_append (d : Document) (front back : List Call) :
    d.run (front ++ back) = (d.run front).run back :=
  List.foldl_append

theorem run_concat (d : Document) (calls : List Call) (c : Call) :
    d.run (calls ++ [c]) = c.after (d.run calls) := by
  rw [run_append]
  rfl

theorem nodes_opened (tag : String) (attributes : List String) :
    (opened tag attributes).nodes = (withRoot tag).nodes := by
  suffices grown : ∀ d : Document, (attributes.foldl withBindingAttribute d).nodes = d.nodes from
    grown _
  induction attributes with
  | nil => exact fun d => rfl
  | cons name rest ih => exact fun d => ih (d.withBindingAttribute name)

theorem bindings_opened (tag : String) (attributes : List String) :
    (opened tag attributes).bindings = [] := by
  suffices kept : ∀ d : Document, (attributes.foldl withBindingAttribute d).bindings = d.bindings
    from kept _
  induction attributes with
  | nil => exact fun d => rfl
  | cons name rest ih => exact fun d => ih (d.withBindingAttribute name)

theorem Forest.opened (tag : String) (attributes : List String) :
    (Document.opened tag attributes).Forest :=
  (Forest.withRoot tag).congr_nodes (nodes_opened tag attributes)

/-! ## What a call does -/

section Cases

variable {d d' : Document} {c : Call} {result : Nat}

/-- Activating changes the live bindings only. -/
theorem nodes_compile {n : Nat} {scope : Scope} (done : d.compile n scope = .ok (d', result)) :
    d'.nodes = d.nodes := by
  unfold compile at done
  split at done <;> cases done
  rfl

/-- **What a successful call does**: it activates, or it is one splice. -/
theorem Forest.perform_cases (forest : d.Forest) (done : c.perform d = .ok (d', result)) :
    (∃ n scope, c = .compile n scope ∧ d'.nodes = d.nodes) ∨
      ∃ p m i k, c.target? d = some p ∧ d.Spliced p m i k d' ∧
        cutOut i k (d.children p) = c.replaced?.toList := by
  cases c with
  | createAnchor tag =>
      cases done
      exact Or.inr ⟨_, _, _, _, rfl, spliced_adopt forest.rooted, cutOut_zero⟩
  | append parent m =>
      exact Or.inr ⟨_, _, _, _, rfl, (spliced_append done).2, cutOut_zero⟩
  | insertBefore parent m reference =>
      obtain ⟨-, i, -, spliced⟩ := spliced_insertBefore done
      exact Or.inr ⟨_, _, _, _, rfl, spliced, cutOut_zero⟩
  | replaceWith n m =>
      obtain ⟨-, p, i, item, spliced⟩ := forest.spliced_replaceWith done
      have parent := forest.parent p n (List.mem_of_getElem? item)
      exact Or.inr ⟨_, _, _, _, parent, spliced, cutOut_one item⟩
  | mount anchor descriptor m =>
      simp only [Call.perform, mountMarkup] at done
      split at done
      · rename_i replaces
        obtain ⟨-, p, i, item, spliced⟩ := forest.spliced_replaceWith done
        have parent := forest.parent p anchor (List.mem_of_getElem? item)
        refine Or.inr ⟨p, m, i, 1, ?_, spliced, ?_⟩
        · rw [Call.target?, if_pos replaces, parent]
        · rw [cutOut_one item, Call.replaced?, if_pos replaces, Option.toList_some]
      · rename_i fills
        refine Or.inr ⟨anchor, m, _, 0, ?_, (spliced_append done).2, ?_⟩
        · rw [Call.target?, if_neg fills]
        · rw [cutOut_zero, Call.replaced?, if_neg fills, Option.toList_none]
  | compile n scope => exact Or.inl ⟨n, scope, rfl, nodes_compile done⟩

theorem Forest.perform (forest : d.Forest) (done : c.perform d = .ok (d', result)) :
    d'.Forest := by
  rcases forest.perform_cases done with ⟨n, scope, -, same⟩ | ⟨p, m, i, k, -, spliced, -⟩
  · exact forest.congr_nodes same
  · exact forest.spliced spliced

/-- No call gives a node's position away. -/
theorem Forest.size_le (forest : d.Forest) (done : c.perform d = .ok (d', result)) :
    d.size ≤ d'.size := by
  rcases forest.perform_cases done with ⟨n, scope, -, same⟩ | ⟨p, m, i, k, -, spliced, -⟩
  · exact Nat.le_of_eq (congrArg Array.size same).symm
  · rw [spliced.size]
    exact Nat.le_add_right _ _

/-- What stands at a node stays. -/
theorem Forest.content?_perform (forest : d.Forest) (done : c.perform d = .ok (d', result))
    {x : Nat} (inside : x < d.size) : d'.content? x = d.content? x := by
  rcases forest.perform_cases done with ⟨n, scope, -, same⟩ | ⟨p, m, i, k, -, spliced, -⟩
  · rw [content?, content?, same]
  · exact spliced.content x inside

end Cases

/-! ## Runs -/

/-- What every successful call keeps, a run keeps. -/
theorem run_induction {motive : Document → Prop} {d : Document} (start : motive d)
    (step : ∀ {d d' : Document} {c : Call} {result : Nat}, motive d →
      c.perform d = .ok (d', result) → motive d') (calls : List Call) : motive (d.run calls) := by
  induction calls generalizing d with
  | nil => exact start
  | cons c rest ih =>
      refine ih ?_
      by_cases succeeds : c.Succeeds d
      · obtain ⟨d', result, done⟩ := succeeds
        rw [Call.after_of_ok done]
        exact step start done
      · rw [Call.after_of_error succeeds]
        exact start

/-- **The links of a document make a forest at every point of its history.** -/
theorem Forest.run {d : Document} (forest : d.Forest) (calls : List Call) : (d.run calls).Forest :=
  run_induction forest Forest.perform calls

/-- What every successful call of a forest keeps, a run keeps. -/
theorem Forest.run_induction {motive : Document → Prop} {d : Document} (forest : d.Forest)
    (start : motive d)
    (step : ∀ {d d' : Document} {c : Call} {result : Nat}, d.Forest → motive d →
      c.perform d = .ok (d', result) → motive d') (calls : List Call) : motive (d.run calls) := by
  have kept : (d.run calls).Forest ∧ motive (d.run calls) :=
    Document.run_induction (motive := fun e => e.Forest ∧ motive e) ⟨forest, start⟩
      (fun ⟨forest, sofar⟩ done => ⟨forest.perform done, step forest sofar done⟩) calls
  exact kept.2

theorem Forest.size_le_run {d : Document} (forest : d.Forest) (calls : List Call) :
    d.size ≤ (d.run calls).size :=
  forest.run_induction (motive := fun e => d.size ≤ e.size) (Nat.le_refl _)
    (fun known sofar done => Nat.le_trans sofar (known.size_le done)) calls

theorem forest_run_opened (tag : String) (attributes : List String) (calls : List Call) :
    ((Document.opened tag attributes).run calls).Forest :=
  (Forest.opened tag attributes).run calls

/-! ## Histories -/

/-- Some call of a run was made in a state with which it satisfies `event`. -/
def Happened (d : Document) (event : Document → Call → Prop) (calls : List Call) : Prop :=
  ∃ before c later, calls = before ++ c :: later ∧ event (d.run before) c

section History

variable {d : Document} {event : Document → Call → Prop}

theorem not_happened_nil : ¬ d.Happened event [] := by
  rintro ⟨before, c, later, split, -⟩
  cases before <;> cases split

theorem happened_concat (calls : List Call) (c : Call) :
    d.Happened event (calls ++ [c]) ↔ d.Happened event calls ∨ event (d.run calls) c := by
  constructor
  · rintro ⟨before, c', later, split, occurred⟩
    rcases List.eq_nil_or_concat later with rfl | ⟨later, last, rfl⟩
    · obtain ⟨rfl, same⟩ := List.append_inj' split rfl
      cases same
      exact Or.inr occurred
    · rw [List.concat_eq_append, ← List.cons_append, ← List.append_assoc] at split
      obtain ⟨rfl, -⟩ := List.append_inj' split rfl
      exact Or.inl ⟨before, c', later, rfl, occurred⟩
  · rintro (⟨before, c', later, rfl, occurred⟩ | occurred)
    · exact ⟨before, c', later ++ [c], by simp, occurred⟩
    · exact ⟨calls, c, [], rfl, occurred⟩

end History

end Document

end ConsoleView
