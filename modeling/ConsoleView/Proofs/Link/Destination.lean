/-
# ConsoleView.Proofs.Link.Destination -- the destination of a link tells the link

A destination is cut at its slashes.  The pieces are those of the root, whatever
slashes it has inside, and then one for each segment, even for an empty one
(`pieces_joined`); so a destination under a known root tells how many segments
there are and which (`joinSegments_inj`).  The variants under one root have one,
two and three segments and cannot be taken for each other
(`linkHref_unambiguous`).
-/
import ConsoleView.Component.Link
import Mathlib.Data.List.Basic
import Mathlib.Data.List.Induction

namespace ConsoleView

set_option autoImplicit false

/-! ## Cutting a destination -/

section Join

variable {root : String} {xs ys : List String}

theorem ne_slash_of_clear {s : String} (clear : '/' ∉ s.toList) :
    ∀ c ∈ s.toList, (c == '/') = false := by
  intro c member
  rw [beq_eq_false_iff_ne]
  rintro rfl
  exact clear member

/-- The pieces of a root with segments behind it are those of the root and the segments. -/
theorem pieces_joined (front : List Char) (clear : ∀ s ∈ xs, '/' ∉ s.toList) :
    Text.pieces (· == '/') (front ++ xs.flatMap fun s => '/' :: s.toList) =
      Text.pieces (· == '/') front ++ xs.map String.toList := by
  induction xs using List.reverseRecOn with
  | nil => simp
  | append_singleton xs last ih =>
      have before := ih fun s member => clear s (List.mem_append_left _ member)
      have alone : Text.pieces (· == '/') last.toList = [last.toList] :=
        Text.pieces_of_clear (ne_slash_of_clear (clear last (by simp)))
      rw [List.flatMap_append, List.flatMap_singleton, ← List.append_assoc,
        Text.pieces_append rfl, before, alone, List.map_append, List.append_assoc]
      rfl

/-- **Under one root, segments without slashes are told by what they are joined to.** -/
theorem joinSegments_inj (clearX : ∀ s ∈ xs, '/' ∉ s.toList) (clearY : ∀ s ∈ ys, '/' ∉ s.toList) :
    joinSegments root xs = joinSegments root ys ↔ xs = ys := by
  constructor
  · intro same
    have cut := congrArg (Text.pieces (· == '/')) (String.ofList_injective same)
    rw [pieces_joined _ clearX, pieces_joined _ clearY] at cut
    exact List.map_injective_iff.2 (fun _ _ => String.toList_injective) (List.append_cancel_left cut)
  · rintro rfl
    rfl

end Join

/-! ## Roots -/

def slashes (n : Nat) : String := String.ofList (List.replicate n '/')

theorem dropEndSlashes_append (cs : List Char) (n : Nat) :
    dropEndSlashes (cs ++ List.replicate n '/') = dropEndSlashes cs := by
  rw [dropEndSlashes, dropEndSlashes, List.reverse_append, List.reverse_replicate]
  congr 1
  induction n with
  | zero => rfl
  | succ n ih => rw [List.replicate_succ, List.cons_append, List.dropWhile_cons_of_pos rfl, ih]

/-- Slashes at the end of the root do not count. -/
theorem joinSegments_append_slashes (root : String) (n : Nat) (segments : List String) :
    joinSegments (root ++ slashes n) segments = joinSegments root segments := by
  rw [joinSegments, slashes, String.toList_append, String.toList_ofList, dropEndSlashes_append,
    joinSegments]

/-! ## Links -/

namespace LinkTarget

/-- Neither the value nor the role nor the environment has a slash. -/
structure Clear (t : LinkTarget) : Prop where
  value : '/' ∉ t.value.toList
  role : ∀ role, t.role = some role → '/' ∉ role.toList
  environment : ∀ environment, t.environment = some environment → '/' ∉ environment.toList

/-- A part that is not there is an empty segment. -/
theorem clear_getD {part : Option String} (clear : ∀ s, part = some s → '/' ∉ s.toList) :
    '/' ∉ (part.getD "").toList := by
  cases part with
  | none => exact List.not_mem_nil
  | some s => exact clear s rfl

end LinkTarget

namespace LinkVariant

/-- Two targets are the same in all that a variant uses; what is not there counts as empty. -/
def SameSegments (t u : LinkTarget) : LinkVariant → Prop
  | role | task => t.value = u.value
  | roleEnv => t.role.getD "" = u.role.getD "" ∧ t.value = u.value
  | job =>
      t.role.getD "" = u.role.getD "" ∧ t.environment.getD "" = u.environment.getD "" ∧
        t.value = u.value

theorem clear_segments {t : LinkTarget} (clear : t.Clear) (v : LinkVariant) :
    ∀ s ∈ v.segments t, '/' ∉ s.toList := by
  have role := LinkTarget.clear_getD clear.role
  have environment := LinkTarget.clear_getD clear.environment
  have value := clear.value
  cases v <;> simp only [segments, List.forall_mem_cons, List.not_mem_nil, false_imp_iff,
    implies_true, and_true]
  case role => exact value
  case roleEnv => exact ⟨role, value⟩
  case job => exact ⟨role, environment, value⟩
  case task => exact value

/-- The variants of one root have different numbers of segments. -/
theorem segments_eq_iff {v w : LinkVariant} (notTask : v ≠ task) (notTask' : w ≠ task)
    (t u : LinkTarget) : v.segments t = w.segments u ↔ v = w ∧ v.SameSegments t u := by
  cases v <;> cases w <;> simp_all [segments, SameSegments]

end LinkVariant

section Href

variable (settings : LinkSettings)

theorem linkHref_of_not_task {v : LinkVariant} (notTask : v ≠ .task) (t : LinkTarget) :
    linkHref settings v t = joinSegments settings.schedulerRoot (v.segments t) := by
  cases v with
  | task => exact absurd rfl notTask
  | role | roleEnv | job => rfl

theorem linkHref_append_slashes (m n : Nat) (v : LinkVariant) (t : LinkTarget) :
    linkHref { schedulerRoot := settings.schedulerRoot ++ slashes m,
               taskRoot := settings.taskRoot ++ slashes n } v t = linkHref settings v t := by
  cases v <;> exact joinSegments_append_slashes _ _ _

theorem href_linkAnchor (v : LinkVariant) (t : LinkTarget) :
    (linkAnchor settings v t).attribute? "href" = some (linkHref settings v t) := by
  cases v <;> simp [linkAnchor, Element.attribute?, Element.withText, Element.withChild,
    Element.withAttribute, Attributes.get?_set]

theorem textContent_linkAnchor (v : LinkVariant) (t : LinkTarget) :
    (linkAnchor settings v t).textContent = t.value := by
  have children : (linkAnchor settings v t).children = [.text t.value] := by
    cases v <;> rfl
  rw [Element.textContent, Element.toMarkup, Markup.textContent, children, Markup.textOfAll,
    Markup.textContent, Markup.textOfAll, String.append_empty]

end Href

/-- **The destination of a link tells the link.**  Destinations of roles, environments and jobs with
slash-free parts are the same exactly if the links are of one variant and the same in all that it
uses, whatever the roots are; those of tasks exactly if the values are.  Slashes at the end of a root
change no destination.  An anchor leads to the destination, and its text is the value as it is. -/
theorem linkHref_unambiguous (settings : LinkSettings) :
    (∀ v w : LinkVariant, v ≠ .task → w ≠ .task → ∀ t u : LinkTarget, t.Clear → u.Clear →
      (linkHref settings v t = linkHref settings w u ↔ v = w ∧ v.SameSegments t u)) ∧
    (∀ t u : LinkTarget, '/' ∉ t.value.toList → '/' ∉ u.value.toList →
      (linkHref settings .task t = linkHref settings .task u ↔ t.value = u.value)) ∧
    (∀ m n v t, linkHref { schedulerRoot := settings.schedulerRoot ++ slashes m,
                           taskRoot := settings.taskRoot ++ slashes n } v t =
      linkHref settings v t) ∧
    ∀ v t, (linkAnchor settings v t).attribute? "href" = some (linkHref settings v t) ∧
      (linkAnchor settings v t).textContent = t.value := by
  refine ⟨?_, ?_, linkHref_append_slashes settings, fun v t =>
    ⟨href_linkAnchor settings v t, textContent_linkAnchor settings v t⟩⟩
  · intro v w notTask notTask' t u clear clear'
    rw [linkHref_of_not_task settings notTask, linkHref_of_not_task settings notTask',
      joinSegments_inj (v.clear_segments clear) (w.clear_segments clear'),
      LinkVariant.segments_eq_iff notTask notTask']
  · intro t u clear clear'
    have single : ∀ {t : LinkTarget}, '/' ∉ t.value.toList →
        ∀ s ∈ LinkVariant.task.segments t, '/' ∉ s.toList := by
      intro t clear s member
      rwa [List.mem_singleton.1 member]
    have joined : linkHref settings .task t = linkHref settings .task u ↔
        LinkVariant.task.segments t = LinkVariant.task.segments u :=
      joinSegments_inj (single clear) (single clear')
    rw [joined, LinkVariant.segments, LinkVariant.segments, List.singleton_inj]

/-- Under a root of slashes only, a job without role and environment is told from a role; it is the
job whose role and environment are empty. -/
theorem unambiguous_under_slashes :
    let settings : LinkSettings := { schedulerRoot := "//", taskRoot := "/a/" }
    let bare : LinkTarget := { value := "web" }
    let empty : LinkTarget := { value := "web", role := some "", environment := some "" }
    bare.Clear ∧ empty.Clear ∧
      linkHref settings .job bare = linkHref settings .job empty ∧
      linkHref settings .job bare ≠ linkHref settings .role bare ∧
      linkHref settings .task bare ≠ linkHref settings .task { value := "db" } := by
  intro settings bare empty
  obtain ⟨links, tasks, -⟩ := linkHref_unambiguous settings
  have clearBare : bare.Clear := ⟨by decide, nofun, nofun⟩
  have clearEmpty : empty.Clear := by
    refine ⟨by decide, ?_, ?_⟩ <;> rintro _ ⟨⟩ <;> exact List.not_mem_nil
  refine ⟨clearBare, clearEmpty, ?_, ?_, ?_⟩
  · exact (links .job .job (by decide) (by decide) bare empty clearBare clearEmpty).2
      ⟨rfl, rfl, rfl, rfl⟩
  · intro same
    have told := (links .job .role (by decide) (by decide) bare bare clearBare clearBare).1 same
    cases told.1
  · intro same
    have told := (tasks bare { value := "db" } (by decide) (by decide)).1 same
    revert told
    decide

end ConsoleView
