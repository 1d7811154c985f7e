/-
# ConsoleView.Proofs.Markup.Classes -- class tokens accumulate

Adding classes puts the words of a text behind the class tokens that an element
has, whatever was written into its class attribute before (`withClass_cases`).
Only the class attribute is written, and a written attribute keeps its place or
is put last; so after any calls the names of the attributes stand in the order
in which they were first written (`attributeNames_performAll`).
-/
import ConsoleView.Markup.Basic
import Mathlib.Data.List.DropRight

namespace ConsoleView

set_option autoImplicit false

/-! ## Words -/

namespace Text

def IsBlankText (s : String) : Prop := ∀ c ∈ s.toList, isBlank c = true

instance (s : String) : Decidable (IsBlankText s) :=
  decidable_of_iff (s.toList.all isBlank = true) List.all_eq_true

theorem wordsOf_append_blank {c : Char} (blank : isBlank c = true) (front back : List Char) :
    wordsOf (front ++ c :: back) = wordsOf front ++ wordsOf back := by
  rw [wordsOf, pieces_append blank, List.filter_append, wordsOf, wordsOf]

/-- Words are what is left without the blanks, so there are none exactly if all is blank. -/
theorem wordsOf_eq_nil_iff (cs : List Char) : wordsOf cs = [] ↔ ∀ c ∈ cs, isBlank c = true := by
  have empty : wordsOf cs = [] ↔ (pieces isBlank cs).flatten = [] := by
    rw [wordsOf, List.filter_eq_nil_iff, List.flatten_eq_nil_iff]
    simp
  rw [empty, flatten_pieces, List.filter_eq_nil_iff]
  simp

/-- Blanks at the start do not count. -/
theorem wordsOf_dropWhile (cs : List Char) : wordsOf (cs.dropWhile isBlank) = wordsOf cs := by
  induction cs with
  | nil => rfl
  | cons c cs ih =>
      by_cases blank : isBlank c = true
      · have first : wordsOf (c :: cs) = wordsOf cs := wordsOf_append_blank blank [] cs
        rw [List.dropWhile_cons_of_pos blank, ih, first]
      · rw [List.dropWhile_cons_of_neg blank]

/-- Nor do blanks at the end. -/
theorem wordsOf_rdropWhile (cs : List Char) : wordsOf (cs.rdropWhile isBlank) = wordsOf cs := by
  induction cs using List.reverseRecOn with
  | nil => rfl
  | append_singleton cs c ih =>
      by_cases blank : isBlank c = true
      · have last : wordsOf (cs ++ [c]) = wordsOf cs :=
          (wordsOf_append_blank blank cs []).trans (List.append_nil _)
        rw [List.rdropWhile_concat_pos _ _ _ blank, ih, last]
      · rw [List.rdropWhile_concat_neg _ _ _ blank]

theorem words_empty : words "" = [] := rfl

theorem words_trim (s : String) : words (trim s) = words s := by
  have chars : wordsOf (trimChars s.toList) = wordsOf s.toList := by
    rw [trimChars, ← List.rdropWhile, wordsOf_rdropWhile, wordsOf_dropWhile]
  rw [words, trim, String.toList_ofList, chars, words]

theorem words_eq_nil_iff (s : String) : words s = [] ↔ IsBlankText s := by
  rw [words, List.map_eq_nil_iff, wordsOf_eq_nil_iff, IsBlankText]

theorem trim_eq_empty_iff (s : String) : trim s = "" ↔ IsBlankText s := by
  constructor
  · intro empty
    rw [← words_eq_nil_iff, ← words_trim, empty, words_empty]
  · intro blank
    have none : s.toList.dropWhile isBlank = [] := List.dropWhile_eq_nil_iff.2 blank
    rw [trim, trimChars, none]
    rfl

/-- The words of two texts with a space between them are those of the texts. -/
theorem words_append_space (s t : String) : words (s ++ " " ++ t) = words s ++ words t := by
  have chars : (s ++ " " ++ t).toList = s.toList ++ ' ' :: t.toList := by simp
  rw [words, chars, wordsOf_append_blank (by decide), List.map_append, words, words]

end Text

/-! ## Attributes -/

section Pairs

variable {name value : String} {pairs : List (String × String)}

/-- A name that is there keeps its place. -/
theorem names_setPair_of_mem (known : name ∈ pairs.map Prod.fst) :
    (setPair name value pairs).map Prod.fst = pairs.map Prod.fst := by
  induction pairs with
  | nil => cases known
  | cons head rest ih =>
      obtain ⟨n, v⟩ := head
      by_cases same : n = name
      · rw [setPair, if_pos same, List.map_cons, List.map_cons]
      · have later : name ∈ rest.map Prod.fst := (List.mem_cons.1 known).resolve_left (Ne.symm same)
        rw [setPair, if_neg same, List.map_cons, List.map_cons, ih later]

/-- Every other pair keeps its place. -/
theorem getElem?_setPair {pair : String × String} (other : pair.1 ≠ name) (i : Nat) :
    (setPair name value pairs)[i]? = some pair ↔ pairs[i]? = some pair := by
  induction pairs generalizing i with
  | nil =>
      cases i with
      | zero =>
          simp only [setPair, List.getElem?_cons_zero, List.getElem?_nil, Option.some.injEq,
            reduceCtorEq, iff_false]
          rintro rfl
          exact other rfl
      | succ i => rfl
  | cons head rest ih =>
      obtain ⟨n, v⟩ := head
      by_cases same : n = name
      · cases i with
        | zero =>
            simp only [setPair, if_pos same, List.getElem?_cons_zero, Option.some.injEq]
            constructor <;>
            · rintro rfl
              exact absurd same other
        | succ i => simp only [setPair, if_pos same, List.getElem?_cons_succ]
      · cases i with
        | zero => simp only [setPair, if_neg same, List.getElem?_cons_zero]
        | succ i => simpa only [setPair, if_neg same, List.getElem?_cons_succ] using ih i

end Pairs

namespace Element

def attributeNames (e : Element) : List String := e.attributes.pairs.map Prod.fst

/-- **Adding classes**, told by the words: without words nothing happens, with words the class
attribute gets a value whose words are the class tokens so far and then these words. -/
theorem withClass_cases (e : Element) (s : String) :
    Text.IsBlankText s ∧ e.withClass s = e ∨
      ¬ Text.IsBlankText s ∧ ∃ value, Text.words value = e.classTokens ++ Text.words s ∧
        e.withClass s = e.withAttribute "class" value := by
  rw [withClass]
  by_cases blank : Text.IsBlankText s
  · have empty := (Text.trim_eq_empty_iff s).2 blank
    exact .inl ⟨blank, by simp [empty]⟩
  · have filled : (Text.trim s).isEmpty = false := by
      rw [String.isEmpty_eq_false_iff]
      exact fun empty => blank ((Text.trim_eq_empty_iff s).1 empty)
    refine .inr ⟨blank, ?_⟩
    rw [filled, classTokens, ← Text.words_trim s]
    cases e.attribute? "class" with
    | none => exact ⟨Text.trim s, by rw [Option.getD_none, Text.words_empty, List.nil_append], rfl⟩
    | some present =>
        by_cases unset : present = ""
        · subst unset
          exact ⟨Text.trim s, by rw [Option.getD_some, Text.words_empty, List.nil_append], rfl⟩
        · have set : present.isEmpty = false := String.isEmpty_eq_false_iff.2 unset
          refine ⟨present ++ " " ++ Text.trim s, Text.words_append_space _ _, ?_⟩
          simp [set]

theorem classTokens_withAttribute (e : Element) (value : String) :
    (e.withAttribute "class" value).classTokens = Text.words value := by
  rw [classTokens, attribute?, withAttribute, Attributes.get?_set, if_pos rfl, Option.getD_some]

theorem classTokens_withClass (e : Element) (s : String) :
    (e.withClass s).classTokens = e.classTokens ++ Text.words s := by
  rcases e.withClass_cases s with ⟨blank, same⟩ | ⟨-, value, words, set⟩
  · rw [same, (Text.words_eq_nil_iff s).2 blank, List.append_nil]
  · rw [set, classTokens_withAttribute, words]

theorem hasClass_iff (e : Element) (token : String) :
    e.hasClass token = true ↔ token ∈ e.classTokens := by
  rw [hasClass, List.contains_iff_mem]

end Element

/-! ## Calls -/

inductive AttributeCall where
  | addClass (tokens : String)
  /-- Set an attribute, on the element itself or on one that takes its place. -/
  | set (name value : String)
deriving DecidableEq, Repr

namespace AttributeCall

def perform (e : Element) : AttributeCall → Element
  | addClass tokens => e.withClass tokens
  | set name value => e.withAttribute name value

/-- The names that a call writes; blank classes write none. -/
def written : AttributeCall → List String
  | addClass tokens => if Text.IsBlankText tokens then [] else ["class"]
  | set name _ => [name]

def performAll (calls : List AttributeCall) (e : Element) : Element := calls.foldl perform e

end AttributeCall

/-! ## The order of the names -/

section Names

variable {xs ys : List String}

theorem eraseDups_of_nodup (distinct : xs.Nodup) : xs.eraseDups = xs := by
  induction xs with
  | nil => rfl
  | cons x xs ih =>
      obtain ⟨fresh, distinctRest⟩ := List.nodup_cons.1 distinct
      have others : xs.filter (fun y => !y == x) = xs := by
        rw [List.filter_eq_self]
        intro y member
        have ne : y ≠ x := fun same => fresh (same ▸ member)
        simpa using ne
      rw [List.eraseDups_cons, others, ih distinctRest]

/-- What repeats a name before it can be dropped at once. -/
theorem eraseDups_append_of_eq_eraseDups (distinct : xs.Nodup) (same : xs = ys.eraseDups)
    (zs : List String) : (xs ++ zs).eraseDups = (ys ++ zs).eraseDups := by
  have members : ∀ z, xs.elem z = ys.elem z := by
    intro z
    rw [Bool.eq_iff_iff, List.elem_iff, List.elem_iff, same, List.mem_eraseDups]
  have news : zs.removeAll xs = zs.removeAll ys := by
    simp only [List.removeAll, members]
  rw [List.eraseDups_append, List.eraseDups_append, news, eraseDups_of_nodup distinct, ← same]

theorem eraseDups_append_singleton (distinct : xs.Nodup) (x : String) :
    (xs ++ [x]).eraseDups = if x ∈ xs then xs else xs ++ [x] := by
  by_cases known : x ∈ xs
  · simp [List.eraseDups_append, List.removeAll, known, eraseDups_of_nodup distinct]
  · simp [List.eraseDups_append, List.removeAll, known, eraseDups_of_nodup distinct,
      List.eraseDups_cons]

end Names

namespace Element

theorem nodup_attributeNames (e : Element) : e.attributeNames.Nodup := e.attributes.distinct

theorem attributeNames_withAttribute (e : Element) (name value : String) :
    (e.withAttribute name value).attributeNames = (e.attributeNames ++ [name]).eraseDups := by
  rw [eraseDups_append_singleton e.nodup_attributeNames]
  by_cases known : name ∈ e.attributeNames
  · rw [if_pos known]
    exact names_setPair_of_mem known
  · rw [if_neg known]
    have fresh : ∀ pair ∈ e.attributes.pairs, pair.1 ≠ name := by
      rintro pair member rfl
      exact known (List.mem_map_of_mem member)
    show (setPair name value e.attributes.pairs).map Prod.fst = _
    rw [setPair_of_not_mem fresh, List.map_append]
    rfl

theorem getElem?_withClass (e : Element) (s : String) {pair : String × String}
    (other : pair.1 ≠ "class") (i : Nat) :
    (e.withClass s).attributes.pairs[i]? = some pair ↔ e.attributes.pairs[i]? = some pair := by
  rcases e.withClass_cases s with ⟨-, same⟩ | ⟨-, value, -, set⟩
  · rw [same]
  · rw [set]
    exact getElem?_setPair other i

end Element

namespace AttributeCall

theorem attributeNames_perform (e : Element) (call : AttributeCall) :
    (call.perform e).attributeNames = (e.attributeNames ++ call.written).eraseDups := by
  cases call with
  | set name value => exact e.attributeNames_withAttribute name value
  | addClass tokens =>
      rw [perform, written]
      rcases e.withClass_cases tokens with ⟨blank, same⟩ | ⟨filled, value, -, set⟩
      · rw [same, if_pos blank, List.append_nil, eraseDups_of_nodup e.nodup_attributeNames]
      · rw [set, if_neg filled, Element.attributeNames_withAttribute]

theorem performAll_concat (calls : List AttributeCall) (call : AttributeCall) (e : Element) :
    performAll (calls ++ [call]) e = call.perform (performAll calls e) := by
  rw [performAll, List.foldl_append]
  rfl

/-- After any calls the names stand in the order in which they were first written. -/
theorem attributeNames_performAll (calls : List AttributeCall) (e : Element) :
    (performAll calls e).attributeNames =
      (e.attributeNames ++ calls.flatMap written).eraseDups := by
  induction calls using List.reverseRecOn with
  | nil => rw [List.flatMap_nil, List.append_nil, eraseDups_of_nodup e.nodup_attributeNames]; rfl
  | append_singleton calls call ih =>
      rw [performAll_concat, attributeNames_perform, List.flatMap_append, List.flatMap_singleton,
        ← List.append_assoc,
        eraseDups_append_of_eq_eraseDups (performAll calls e).nodup_attributeNames ih]

end AttributeCall

/-! ## Accumulation -/

/-- **Class tokens accumulate, and nothing else changes.**  The tokens of an element with more
classes are its own and then the words of the text; blank text leaves the element as it is.  Every
other attribute keeps its value and its place, and a class attribute that was not there is put last.
After any calls that write attributes, the names are distinct and in the order in which they were
first written. -/
theorem classes_accumulate (e : Element) :
    (∀ s, (e.withClass s).classTokens = e.classTokens ++ Text.words s ∧
      (∀ token, (e.withClass s).hasClass token = true ↔
        e.hasClass token = true ∨ token ∈ Text.words s) ∧
      (Text.IsBlankText s → e.withClass s = e) ∧
      (∀ pair : String × String, pair.1 ≠ "class" → ∀ i : Nat,
        ((e.withClass s).attributes.pairs[i]? = some pair ↔
          e.attributes.pairs[i]? = some pair)) ∧
      (¬ Text.IsBlankText s → e.attribute? "class" = none → ∃ value,
        (e.withClass s).attributes.pairs = e.attributes.pairs ++ [("class", value)])) ∧
    ∀ calls : List AttributeCall,
      (AttributeCall.performAll calls e).attributeNames.Nodup ∧
        (AttributeCall.performAll calls e).attributeNames =
          (e.attributeNames ++ calls.flatMap AttributeCall.written).eraseDups := by
  refine ⟨fun s => ⟨e.classTokens_withClass s, fun token => ?_, fun blank => ?_,
    fun pair other i => e.getElem?_withClass s other i, fun filled unset => ?_⟩,
    fun calls => ⟨Element.nodup_attributeNames _, AttributeCall.attributeNames_performAll calls e⟩⟩
  · rw [Element.hasClass_iff, Element.hasClass_iff, Element.classTokens_withClass, List.mem_append]
  · rcases e.withClass_cases s with ⟨-, same⟩ | ⟨filled, -⟩
    · exact same
    · exact absurd blank filled
  · rcases e.withClass_cases s with ⟨blank, -⟩ | ⟨-, value, -, set⟩
    · exact absurd blank filled
    · refine ⟨value, ?_⟩
      rw [set]
      refine setPair_of_not_mem ?_
      rintro ⟨name, old⟩ member rfl
      have found := List.lookup_eq_none_iff.1 unset _ member
      simp at found

/-- A class attribute that was set to a text with blanks of several sorts, and one not set. -/
theorem accumulates_on_odd_class :
    let bare := (Element.named "li").withAttribute "id" "x"
    let odd := bare.withAttribute "class" "\ta  b\u00a0"
    (odd.withClass " c\u2003d\n").classTokens = ["a", "b", "c", "d"] ∧
      Text.IsBlankText " \u3000" ∧ odd.withClass " \u3000" = odd ∧
      (odd.withClass "c").attributes.pairs[0]? = some ("id", "x") ∧
      (∃ value, (bare.withClass "c").attributes.pairs = [("id", "x"), ("class", value)]) ∧
      (AttributeCall.performAll [.set "title" "t", .addClass " ", .set "id" "y"] bare).attributeNames =
        ["id", "title"] := by
  intro bare odd
  obtain ⟨ofOdd, -⟩ := classes_accumulate odd
  obtain ⟨ofBare, calls⟩ := classes_accumulate bare
  have blank : Text.IsBlankText " \u3000" := by decide
  obtain ⟨tokens, -⟩ := ofOdd " c\u2003d\n"
  obtain ⟨-, -, unchanged, -⟩ := ofOdd " \u3000"
  obtain ⟨-, -, -, kept, -⟩ := ofOdd "c"
  obtain ⟨-, -, -, -, last⟩ := ofBare "c"
  refine ⟨tokens.trans (by decide +kernel), blank, unchanged blank,
    (kept ("id", "x") (by decide) 0).2 rfl, last (by decide) rfl,
    (calls [.set "title" "t", .addClass " ", .set "id" "y"]).2.trans (by decide +kernel)⟩

end ConsoleView
