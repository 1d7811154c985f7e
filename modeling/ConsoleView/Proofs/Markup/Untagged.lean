/-
# ConsoleView.Proofs.Markup.Untagged -- the texts of a tree in its HTML

Whoever takes the tags out of the HTML and puts the characters for the entities
gets the texts of the tree back (`html_untagged`), as long as no tag and no
attribute name holds an angle bracket.  Texts and attribute values may hold
anything: no bracket of theirs reaches the HTML, so each `<` begins a tag and the
next `>` ends it, and each `&` begins an entity.
-/
import ConsoleView.Markup.Html
import Mathlib.Data.List.Basic

namespace ConsoleView.Markup

set_option autoImplicit false

/-! ## Reading HTML without a parser -/

/-- The text without every stretch from a `<` to the next `>`.  A `<` with no `>` behind it
begins no stretch. -/
def untagged : List Char → List Char
  | [] => []
  | c :: rest =>
      if c = '<' ∧ '>' ∈ rest then untagged (rest.dropWhile (· != '>')).tail
      else c :: untagged rest
termination_by cs => cs.length
decreasing_by
  · have shorter := (List.dropWhile_suffix (l := rest) (· != '>')).length_le
    simp only [List.length_tail, List.length_cons]
    omega
  · simp

/-- The text with the characters for the entities of `<`, `>` and `&`, in one pass. -/
def unescaped : List Char → List Char
  | '&' :: 'l' :: 't' :: ';' :: rest => '<' :: unescaped rest
  | '&' :: 'g' :: 't' :: ';' :: rest => '>' :: unescaped rest
  | '&' :: 'a' :: 'm' :: 'p' :: ';' :: rest => '&' :: unescaped rest
  | c :: rest => c :: unescaped rest
  | [] => []

/-! ## Names -/

def IsUnbracketed (name : String) : Prop := '<' ∉ name.toList ∧ '>' ∉ name.toList

instance (name : String) : Decidable (IsUnbracketed name) :=
  inferInstanceAs (Decidable (_ ∧ _))

/-- Neither the tag nor an attribute name of an element has an angle bracket. -/
def HasUnbracketedNames (e : Element) : Prop :=
  IsUnbracketed e.tag ∧ ∀ pair ∈ e.attributes.pairs, IsUnbracketed pair.1

instance (e : Element) : Decidable (HasUnbracketedNames e) :=
  inferInstanceAs (Decidable (_ ∧ ∀ pair ∈ e.attributes.pairs, IsUnbracketed pair.1))

/-! ## Entities -/

theorem unescaped_cons {c : Char} (plain : c ≠ '&') (rest : List Char) :
    unescaped (c :: rest) = c :: unescaped rest := by
  conv_lhs => unfold unescaped
  split <;> simp_all

/-- Entities are read as the characters they are written for, also in a text that looks like
entities. -/
theorem unescaped_escapeText (cs : List Char) : unescaped (cs.flatMap escapeText) = cs := by
  induction cs with
  | nil => rfl
  | cons c cs ih =>
      rw [List.flatMap_cons, escapeText]
      by_cases amp : c = '&'
      · subst amp
        exact congrArg _ ih
      · by_cases lt : c = '<'
        · subst lt
          exact congrArg _ ih
        · by_cases gt : c = '>'
          · subst gt
            exact congrArg _ ih
          · rw [if_neg amp, if_neg lt, if_neg gt, List.singleton_append, unescaped_cons amp, ih]

theorem bracket_not_mem_escapeText (c : Char) : '<' ∉ escapeText c ∧ '>' ∉ escapeText c := by
  refine ⟨lt_not_mem_escapeText c, ?_⟩
  unfold escapeText
  split
  · decide
  · split
    · decide
    · split
      · decide
      · rename_i ne
        exact fun mem => ne (List.mem_singleton.1 mem).symm

theorem bracket_not_mem_escapeValue (c : Char) : '<' ∉ escapeValue c ∧ '>' ∉ escapeValue c := by
  unfold escapeValue
  split
  · decide
  · exact bracket_not_mem_escapeText c

/-! ## Tags -/

/-- What stands between the brackets of an element's opening tag. -/
def tagBody (e : Element) : List Char :=
  e.tag.toList ++ e.attributes.pairs.flatMap attributeChars

theorem openTag_eq (e : Element) : openTag e.tag e.attributes = '<' :: tagBody e ++ ['>'] := by
  simp [openTag, tagBody]

theorem bracket_not_mem_attributeChars {pair : String × String} (clear : IsUnbracketed pair.1) :
    '<' ∉ attributeChars pair ∧ '>' ∉ attributeChars pair := by
  have value := bracket_not_mem_escapeValue
  constructor <;>
    simp [attributeChars, clear.1, clear.2, fun c => (value c).1, fun c => (value c).2]

theorem bracket_not_mem_tagBody {e : Element} (clear : HasUnbracketedNames e) :
    '<' ∉ tagBody e ∧ '>' ∉ tagBody e := by
  have named := fun pair member => bracket_not_mem_attributeChars (clear.2 pair member)
  simp only [tagBody, List.mem_append, List.mem_flatMap, not_or, not_exists, not_and]
  exact ⟨⟨clear.1.1, fun pair member => (named pair member).1⟩,
    clear.1.2, fun pair member => (named pair member).2⟩

/-- What stands between brackets goes with them. -/
theorem untagged_tag {body : List Char} (closed : '>' ∉ body) (rest : List Char) :
    untagged ('<' :: body ++ '>' :: rest) = untagged rest := by
  have inside : ∀ c ∈ body, (c != '>') = true := by
    intro c member
    rw [bne_iff_ne]
    rintro rfl
    exact closed member
  have behind : (body ++ '>' :: rest).dropWhile (· != '>') = '>' :: rest := by
    rw [List.dropWhile_append_of_pos inside, List.dropWhile_cons_of_neg (by decide)]
  rw [List.cons_append, untagged, if_pos ⟨rfl, by simp⟩, behind, List.tail_cons]

/-- What holds no `<` stays. -/
theorem untagged_append {front : List Char} (opened : '<' ∉ front) (rest : List Char) :
    untagged (front ++ rest) = front ++ untagged rest := by
  induction front with
  | nil => rfl
  | cons c front ih =>
      rw [List.mem_cons, not_or] at opened
      have other : ¬ (c = '<' ∧ '>' ∈ front ++ rest) := fun tag => opened.1 tag.1.symm
      rw [List.cons_append, untagged, if_neg other, ih opened.2, List.cons_append]

/-! ## Trees -/

mutual

/-- Without its tags, the HTML of a tree is its texts, escaped. -/
theorem untagged_htmlChars (m : Markup) (clear : ∀ e ∈ m.elements, HasUnbracketedNames e)
    (rest : List Char) :
    untagged (htmlChars m ++ rest) = m.textContent.toList.flatMap escapeText ++ untagged rest := by
  match m with
  | .text content =>
      refine untagged_append ?_ rest
      intro member
      obtain ⟨c, -, inside⟩ := List.mem_flatMap.1 member
      exact lt_not_mem_escapeText c inside
  | .element tag attributes children =>
      obtain ⟨own, inner⟩ := List.forall_mem_cons.1 clear
      have body := bracket_not_mem_tagBody own
      have ending : '>' ∉ '/' :: tag.toList := by simp [own.1.2]
      calc untagged (htmlChars (.element tag attributes children) ++ rest)
          = untagged ('<' :: tagBody ⟨tag, attributes, children⟩ ++ '>' ::
              (htmlOfAll children ++ ('<' :: ('/' :: tag.toList) ++ '>' :: rest))) := by
            simp [htmlChars, openTag, closeTag, tagBody]
        _ = untagged (htmlOfAll children ++ ('<' :: ('/' :: tag.toList) ++ '>' :: rest)) :=
            untagged_tag body.2 _
        _ = (textOfAll children).toList.flatMap escapeText ++
              untagged ('<' :: ('/' :: tag.toList) ++ '>' :: rest) :=
            untagged_htmlOfAll children inner _
        _ = (textOfAll children).toList.flatMap escapeText ++ untagged rest := by
            rw [untagged_tag ending]

theorem untagged_htmlOfAll (ms : List Markup)
    (clear : ∀ e ∈ elementsOfAll ms, HasUnbracketedNames e) (rest : List Char) :
    untagged (htmlOfAll ms ++ rest) =
      (textOfAll ms).toList.flatMap escapeText ++ untagged rest := by
  match ms with
  | [] => rfl
  | m :: later =>
      obtain ⟨first, others⟩ := List.forall_mem_append.1 clear
      rw [htmlOfAll, List.append_assoc, untagged_htmlChars m first,
        untagged_htmlOfAll later others, textOfAll, String.toList_append, List.flatMap_append,
        List.append_assoc]

end

mutual

/-- Each element has two tags, and nothing else has a `<`. -/
theorem count_htmlChars (m : Markup) (clear : ∀ e ∈ m.elements, HasUnbracketedNames e) :
    (htmlChars m).count '<' = 2 * m.elements.length := by
  match m with
  | .text content =>
      refine List.count_eq_zero.2 fun member => ?_
      obtain ⟨c, -, inside⟩ := List.mem_flatMap.1 member
      exact lt_not_mem_escapeText c inside
  | .element tag attributes children =>
      obtain ⟨own, inner⟩ := List.forall_mem_cons.1 clear
      have body := List.count_eq_zero.2 (bracket_not_mem_tagBody own).1
      have name := List.count_eq_zero.2 own.1.1
      have nested := count_htmlOfAll children inner
      have opening : (openTag tag attributes).count '<' = 1 := by
        rw [openTag_eq ⟨tag, attributes, children⟩]
        simp [body]
      have closing : (closeTag tag).count '<' = 1 := by
        simp [closeTag, name]
      rw [htmlChars, List.count_append, List.count_append, opening, nested, closing, elements,
        List.length_cons]
      omega

theorem count_htmlOfAll (ms : List Markup)
    (clear : ∀ e ∈ elementsOfAll ms, HasUnbracketedNames e) :
    (htmlOfAll ms).count '<' = 2 * (elementsOfAll ms).length := by
  match ms with
  | [] => rfl
  | m :: later =>
      obtain ⟨first, others⟩ := List.forall_mem_append.1 clear
      rw [htmlOfAll, List.count_append, count_htmlChars m first, count_htmlOfAll later others,
        elementsOfAll, List.length_append, Nat.mul_add]

end

/-- **The texts of a tree are in its HTML as they are.**  Without the tags, and with the characters
for the entities, the HTML is the texts; and it has a `<` for each of the two tags of an element,
and no other. -/
theorem html_untagged {m : Markup} (clear : ∀ e ∈ m.elements, HasUnbracketedNames e) :
    String.ofList (unescaped (untagged m.html.toList)) = m.textContent ∧
      m.html.toList.count '<' = 2 * m.elements.length := by
  rw [html, String.toList_ofList]
  constructor
  · have texts := untagged_htmlChars m clear []
    rw [untagged, List.append_nil, List.append_nil] at texts
    rw [texts, unescaped_escapeText, String.ofList_toList]
  · exact count_htmlChars m clear

/-- A text that looks like a tag and one that looks like an entity, under an attribute that looks
like the end of a tag. -/
theorem untagged_of_odd_texts :
    let item := (Element.named "b" |>.withAttribute "title" "\">&lt;").withText "<i>&lt;"
    let m := (Element.named "p" |>.withText "&amp;amp;" |>.withChild item.toMarkup).toMarkup
    (∀ e ∈ m.elements, HasUnbracketedNames e) ∧
      String.ofList (unescaped (untagged m.html.toList)) = "&amp;amp;<i>&lt;" ∧
      m.html.toList.count '<' = 4 := by
  intro item m
  have clear : ∀ e ∈ m.elements, HasUnbracketedNames e := by decide
  exact ⟨clear, html_untagged clear⟩

end ConsoleView.Markup
