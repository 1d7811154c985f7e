/-
# ConsoleView.Proofs.Markup.Unambiguous -- the HTML of a tree tells the tree

Two trees with plain names have the same HTML exactly if they are the same once
texts that follow each other are joined and empty texts are dropped
(`html_eq_iff`): no text and no attribute value can pass for a tag.

The HTML is the code of a list of tokens, and no token's code begins another's,
so the HTML tells the tokens (`tokens_eq_of_chars`).  Read from the right with a
stack of open child lists, the tokens put the joined tree together again
(`place_tokens`).
-/
import ConsoleView.Markup.Html
import Mathlib.Data.List.Basic
import Mathlib.Tactic.SplitIfs

namespace ConsoleView.Markup

set_option autoImplicit false

/-! ## Joined texts -/

/-- Put a tree before others.  An empty text is dropped, a text is joined to a text that
comes first. -/
def joinBefore : Markup → List Markup → List Markup
  | .text s, .text t :: rest => .text (s ++ t) :: rest
  | .text s, rest => if s = "" then rest else .text s :: rest
  | m, rest => m :: rest

mutual

/-- The tree with its texts joined in every child list. -/
def joined : Markup → Markup
  | .text content => .text content
  | .element tag attributes children => .element tag attributes (joinedAll children)

def joinedAll : List Markup → List Markup
  | [] => []
  | m :: rest => joinBefore (joined m) (joinedAll rest)

end

theorem htmlOfAll_joinBefore (m : Markup) (rest : List Markup) :
    htmlOfAll (joinBefore m rest) = htmlChars m ++ htmlOfAll rest := by
  unfold joinBefore
  split
  · simp [htmlOfAll, htmlChars]
  · split
    · rename_i empty
      simp [empty, htmlChars]
    · rfl
  · rfl

mutual

theorem htmlChars_joined (m : Markup) : htmlChars m.joined = htmlChars m := by
  match m with
  | .text content => rfl
  | .element tag attributes children =>
      rw [joined, htmlChars, htmlChars, htmlOfAll_joinedAll children]

theorem htmlOfAll_joinedAll (ms : List Markup) : htmlOfAll (joinedAll ms) = htmlOfAll ms := by
  match ms with
  | [] => rfl
  | m :: rest =>
      rw [joinedAll, htmlOfAll_joinBefore, htmlChars_joined m, htmlOfAll_joinedAll rest, htmlOfAll]

end

/-! ## Plain names -/

/-- The characters that have a meaning between the brackets of a tag. -/
def isReserved (c : Char) : Bool :=
  c = ' ' || c = '<' || c = '>' || c = '/' || c = '=' || c = '"'

def IsPlainName (name : String) : Prop := ∀ c ∈ name.toList, isReserved c = false

instance (name : String) : Decidable (IsPlainName name) :=
  List.decidableBAll (isReserved · = false) name.toList

mutual

/-- The tags and the attributes of a tree have plain names. -/
def HasPlainNames : Markup → Prop
  | .text _ => True
  | .element tag attributes children =>
      IsPlainName tag ∧ (∀ pair ∈ attributes.pairs, IsPlainName pair.1) ∧ HavePlainNames children

def HavePlainNames : List Markup → Prop
  | [] => True
  | m :: rest => HasPlainNames m ∧ HavePlainNames rest

end

/-! ## Codes -/

section Codes

variable {α : Type} {code : α → List Char} {P : α → Prop}

/-- Each symbol of a kind has a code, and the code of none begins the code of another. -/
structure IsPrefixCode (code : α → List Char) (P : α → Prop) : Prop where
  nonempty : ∀ a, P a → code a ≠ []
  eq_of_prefix : ∀ a b, P a → P b → code a <+: code b → a = b

/-- A text is coded in one way only. -/
theorem IsPrefixCode.flatMap_inj (free : IsPrefixCode code P) {xs ys : List α}
    (plainX : ∀ x ∈ xs, P x) (plainY : ∀ y ∈ ys, P y)
    (same : xs.flatMap code = ys.flatMap code) : xs = ys := by
  induction xs generalizing ys with
  | nil =>
      cases ys with
      | nil => rfl
      | cons y ys => exact absurd (List.append_eq_nil_iff.1 same.symm).1 (free.nonempty y (by simp_all))
  | cons x xs ih =>
      have plain : P x := plainX x List.mem_cons_self
      cases ys with
      | nil => exact absurd (List.append_eq_nil_iff.1 same).1 (free.nonempty x plain)
      | cons y ys =>
          have plain' : P y := plainY y List.mem_cons_self
          rw [List.flatMap_cons, List.flatMap_cons] at same
          have first : x = y := by
            rcases List.prefix_or_prefix_of_prefix (List.prefix_append (code x) _)
              (same ▸ List.prefix_append (code y) _) with shorter | longer
            · exact free.eq_of_prefix x y plain plain' shorter
            · exact (free.eq_of_prefix y x plain' plain longer).symm
          subst first
          rw [ih (fun z later => plainX z (List.mem_cons_of_mem _ later))
            (fun z later => plainY z (List.mem_cons_of_mem _ later)) (List.append_cancel_left same)]

/-- What stands before the first character of a kind is told by the whole. -/
theorem eq_of_append_cons {p : Char → Bool} {xs ys u v : List Char} {x y : Char}
    (clearX : ∀ c ∈ xs, p c = false) (clearY : ∀ c ∈ ys, p c = false)
    (endX : p x = true) (endY : p y = true) (same : xs ++ x :: u = ys ++ y :: v) :
    xs = ys ∧ x :: u = y :: v := by
  induction xs generalizing ys with
  | nil =>
      cases ys with
      | nil => exact ⟨rfl, same⟩
      | cons c ys =>
          obtain ⟨rfl, -⟩ := List.cons_eq_cons.1 same
          rw [clearY x List.mem_cons_self] at endX
          cases endX
  | cons c xs ih =>
      cases ys with
      | nil =>
          obtain ⟨rfl, -⟩ := List.cons_eq_cons.1 same
          rw [clearX c List.mem_cons_self] at endY
          cases endY
      | cons d ys =>
          obtain ⟨rfl, tails⟩ := List.cons_eq_cons.1 same
          obtain ⟨before, after⟩ := ih (fun e later => clearX e (List.mem_cons_of_mem _ later))
            (fun e later => clearY e (List.mem_cons_of_mem _ later)) tails
          exact ⟨congrArg _ before, after⟩

end Codes

/-! ## Escaped characters -/

/-- No character of a text is coded as the beginning of another. -/
theorem isPrefixCode_escapeText : IsPrefixCode escapeText fun _ => True where
  nonempty c _ := by
    unfold escapeText
    split_ifs <;> simp
  eq_of_prefix c d _ _ begins := by
    unfold escapeText at begins
    split_ifs at begins <;> simp_all

theorem isPrefixCode_escapeValue : IsPrefixCode escapeValue fun _ => True where
  nonempty c _ := by
    unfold escapeValue escapeText
    split_ifs <;> simp
  eq_of_prefix c d _ _ begins := by
    unfold escapeValue escapeText at begins
    split_ifs at begins <;> simp_all

/-- An attribute's value is told by what stands between its quotes. -/
theorem eq_of_escapeValue {s t : String}
    (same : s.toList.flatMap escapeValue = t.toList.flatMap escapeValue) : s = t :=
  String.toList_inj.1 <| isPrefixCode_escapeValue.flatMap_inj (fun _ _ => trivial)
    (fun _ _ => trivial) same

theorem quote_not_mem_escapeValue (c : Char) : '"' ∉ escapeValue c := by
  unfold escapeValue
  split
  · decide
  · rename_i ne
    unfold escapeText
    split_ifs
    · decide
    · decide
    · decide
    · exact fun member => ne (List.mem_singleton.1 member).symm

/-! ## Tags -/

/-- A name ends where a reserved character stands. -/
theorem eq_of_name {s t : String} (plainS : IsPlainName s) (plainT : IsPlainName t)
    {x y : Char} {u v : List Char} (endS : isReserved x = true) (endT : isReserved y = true)
    (same : s.toList ++ x :: u = t.toList ++ y :: v) : s = t ∧ x :: u = y :: v := by
  obtain ⟨names, rest⟩ := eq_of_append_cons plainS plainT endS endT same
  exact ⟨String.toList_inj.1 names, rest⟩

/-- An attribute is told by what begins with it. -/
theorem eq_of_attributeChars {p q : String × String} (plainP : IsPlainName p.1)
    (plainQ : IsPlainName q.1) {u v : List Char}
    (same : attributeChars p ++ u = attributeChars q ++ v) : p = q ∧ u = v := by
  obtain ⟨name, value⟩ := p
  obtain ⟨name', value'⟩ := q
  simp only [attributeChars, List.cons_append, List.append_assoc, List.cons.injEq, true_and,
    List.nil_append] at same
  obtain ⟨rfl, quoted⟩ := eq_of_name plainP plainQ (by decide) (by decide) same
  simp only [List.cons.injEq, true_and] at quoted
  have clear : ∀ s : String, ∀ c ∈ s.toList.flatMap escapeValue, (c == '"') = false := by
    intro s c member
    obtain ⟨d, -, inside⟩ := List.mem_flatMap.1 member
    exact beq_false_of_ne fun quote => quote_not_mem_escapeValue d (quote ▸ inside)
  obtain ⟨values, rest⟩ := eq_of_append_cons (clear value) (clear value') rfl rfl quoted
  exact ⟨congrArg _ (eq_of_escapeValue values), (List.cons_eq_cons.1 rest).2⟩

/-- The attributes of a tag are told by what they begin, up to the end of the tag. -/
theorem eq_of_attributes {ps qs : List (String × String)} (plainP : ∀ p ∈ ps, IsPlainName p.1)
    (plainQ : ∀ q ∈ qs, IsPlainName q.1) {u v : List Char}
    (same : ps.flatMap attributeChars ++ '>' :: u = qs.flatMap attributeChars ++ '>' :: v) :
    ps = qs := by
  induction ps generalizing qs with
  | nil =>
      cases qs with
      | nil => rfl
      | cons q qs => cases same
  | cons p ps ih =>
      cases qs with
      | nil => cases same
      | cons q qs =>
          rw [List.flatMap_cons, List.flatMap_cons, List.append_assoc, List.append_assoc] at same
          obtain ⟨rfl, rest⟩ := eq_of_attributeChars (plainP p List.mem_cons_self)
            (plainQ q List.mem_cons_self) same
          rw [ih (fun r later => plainP r (List.mem_cons_of_mem _ later))
            (fun r later => plainQ r (List.mem_cons_of_mem _ later)) rest]

/-! ## Tokens -/

/-- What the HTML of a tree is made of. -/
inductive Token where
  /-- A character of a text. -/
  | letter (c : Char)
  | opening (tag : String) (attributes : Attributes)
  | closing (tag : String)

namespace Token

def chars : Token → List Char
  | letter c => escapeText c
  | opening tag attributes => openTag tag attributes
  | closing tag => closeTag tag

def IsPlain : Token → Prop
  | letter _ => True
  | opening tag attributes => IsPlainName tag ∧ ∀ pair ∈ attributes.pairs, IsPlainName pair.1
  | closing tag => IsPlainName tag

end Token

mutual

def tokens : Markup → List Token
  | .text content => content.toList.map .letter
  | .element tag attributes children =>
      .opening tag attributes :: (tokensOfAll children ++ [.closing tag])

def tokensOfAll : List Markup → List Token
  | [] => []
  | m :: rest => tokens m ++ tokensOfAll rest

end

mutual

theorem htmlChars_eq (m : Markup) : htmlChars m = m.tokens.flatMap Token.chars := by
  match m with
  | .text content =>
      rw [htmlChars, tokens, List.flatMap_map]
      rfl
  | .element tag attributes children =>
      rw [htmlChars, tokens, htmlOfAll_eq children, List.flatMap_cons, List.flatMap_append,
        List.flatMap_singleton]
      rfl

theorem htmlOfAll_eq (ms : List Markup) :
    htmlOfAll ms = (tokensOfAll ms).flatMap Token.chars := by
  match ms with
  | [] => rfl
  | m :: rest =>
      rw [htmlOfAll, tokensOfAll, htmlChars_eq m, htmlOfAll_eq rest, List.flatMap_append]

end

mutual

theorem isPlain_tokens {m : Markup} (plain : m.HasPlainNames) : ∀ t ∈ m.tokens, t.IsPlain := by
  match m with
  | .text content =>
      intro t member
      obtain ⟨c, -, rfl⟩ := List.mem_map.1 member
      trivial
  | .element tag attributes children =>
      obtain ⟨plainTag, plainAttributes, plainChildren⟩ := plain
      intro t member
      rw [tokens, List.mem_cons, List.mem_append, List.mem_singleton] at member
      obtain rfl | inside | rfl := member
      · exact ⟨plainTag, plainAttributes⟩
      · exact isPlain_tokensOfAll plainChildren t inside
      · exact plainTag

theorem isPlain_tokensOfAll {ms : List Markup} (plain : HavePlainNames ms) :
    ∀ t ∈ tokensOfAll ms, t.IsPlain := by
  match ms with
  | [] => exact fun t member => absurd member List.not_mem_nil
  | m :: rest =>
      obtain ⟨first, later⟩ := plain
      intro t member
      obtain member | member := List.mem_append.1 member
      · exact isPlain_tokens first t member
      · exact isPlain_tokensOfAll later t member

end

/-- A character of a text does not begin like a tag. -/
theorem head_escapeText (c : Char) : ∃ d rest, escapeText c = d :: rest ∧ d ≠ '<' := by
  unfold escapeText
  split_ifs with amp lt gt
  · exact ⟨'&', _, rfl, by decide⟩
  · exact ⟨'&', _, rfl, by decide⟩
  · exact ⟨'&', _, rfl, by decide⟩
  · exact ⟨c, [], rfl, lt⟩

/-- What follows the bracket of an opening tag is not the slash of a closing tag. -/
theorem head_openTag {tag : String} (plain : IsPlainName tag) (attributes : Attributes) :
    ∃ d rest, openTag tag attributes = '<' :: d :: rest ∧ d ≠ '/' := by
  rw [openTag, List.cons_append, List.cons_append]
  cases name : tag.toList with
  | cons c cs =>
      have reserved : isReserved c = false := plain c (name ▸ List.mem_cons_self)
      exact ⟨c, _, rfl, by rintro rfl; cases reserved⟩
  | nil =>
      cases attributes.pairs with
      | nil => exact ⟨'>', _, rfl, by decide⟩
      | cons pair pairs => exact ⟨' ', _, rfl, by decide⟩

namespace Token

/-- An opening tag is told by what begins with it. -/
theorem opening_of_prefix {s t : String} {as bs : Attributes} (plainS : (opening s as).IsPlain)
    (plainT : (opening t bs).IsPlain) (begins : (opening s as).chars <+: (opening t bs).chars) :
    opening s as = opening t bs := by
  obtain ⟨rest, same⟩ := begins
  simp only [chars, openTag, List.cons_append, List.append_assoc, List.cons.injEq, true_and,
    List.nil_append] at same
  have ends : ∀ (ps : List (String × String)) (u : List Char), ∃ x v,
      ps.flatMap attributeChars ++ '>' :: u = x :: v ∧ isReserved x = true := by
    intro ps u
    cases ps with
    | nil => exact ⟨'>', _, rfl, by decide⟩
    | cons p ps => exact ⟨' ', _, rfl, by decide⟩
  obtain ⟨x, u, afterS, endS⟩ := ends as.pairs rest
  obtain ⟨y, v, afterT, endT⟩ := ends bs.pairs []
  rw [afterS, afterT] at same
  obtain ⟨rfl, tails⟩ := eq_of_name plainS.1 plainT.1 endS endT same
  rw [← afterS, ← afterT] at tails
  rw [Attributes.ext_pairs (eq_of_attributes plainS.2 plainT.2 tails)]

theorem isPrefixCode_chars : IsPrefixCode chars IsPlain where
  nonempty t _ := by
    cases t with
    | letter c => exact isPrefixCode_escapeText.nonempty c trivial
    | opening tag attributes => exact List.cons_ne_nil _ _
    | closing tag => exact List.cons_ne_nil _ _
  eq_of_prefix s t plainS plainT begins := by
    have letterTag : ∀ (c : Char) (rest : List Char),
        ¬ escapeText c <+: '<' :: rest ∧ ¬ '<' :: rest <+: escapeText c := by
      intro c rest
      obtain ⟨d, cs, chars, ne⟩ := head_escapeText c
      rw [chars, List.cons_prefix_cons, List.cons_prefix_cons]
      exact ⟨fun same => ne same.1, fun same => ne same.1.symm⟩
    cases s with
    | letter c =>
        cases t with
        | letter d => rw [isPrefixCode_escapeText.eq_of_prefix c d trivial trivial begins]
        | opening tag attributes => exact absurd begins (letterTag c _).1
        | closing tag => exact absurd begins (letterTag c _).1
    | opening tag attributes =>
        cases t with
        | letter d => exact absurd begins (letterTag d _).2
        | opening tag' attributes' => exact opening_of_prefix plainS plainT begins
        | closing tag' =>
            obtain ⟨d, rest, chars, ne⟩ := head_openTag plainS.1 attributes
            simp [Token.chars, chars, closeTag, ne] at begins
    | closing tag =>
        cases t with
        | letter d => exact absurd begins (letterTag d _).2
        | opening tag' attributes' =>
            obtain ⟨d, rest, chars, ne⟩ := head_openTag plainT.1 attributes'
            simp [Token.chars, chars, closeTag, ne.symm] at begins
        | closing tag' =>
            obtain ⟨rest, same⟩ := begins
            simp only [chars, closeTag, List.cons_append, List.append_assoc, List.cons.injEq,
              true_and, List.nil_append] at same
            rw [(eq_of_name plainS plainT (by decide) (by decide) same).1]

end Token

/-- The HTML tells the tokens. -/
theorem tokens_eq_of_chars {a b : Markup} (plainA : a.HasPlainNames) (plainB : b.HasPlainNames)
    (same : htmlChars a = htmlChars b) : a.tokens = b.tokens := by
  rw [htmlChars_eq, htmlChars_eq] at same
  exact Token.isPrefixCode_chars.flatMap_inj (isPlain_tokens plainA) (isPlain_tokens plainB) same

/-! ## Trees from tokens -/

/-- Put a character before others: at the start of a text that comes first, or as a text. -/
def letterBefore (c : Char) : List Markup → List Markup
  | .text t :: rest => .text (String.singleton c ++ t) :: rest
  | rest => .text (String.singleton c) :: rest

/-- Put a token before what has been read, a stack of child lists with the innermost first. -/
def Token.place : Token → List (List Markup) → List (List Markup)
  | letter c, current :: outer => letterBefore c current :: outer
  | closing _, outer => [] :: outer
  | opening tag attributes, children :: current :: outer =>
      (.element tag attributes children :: current) :: outer
  | _, stack => stack

theorem joinBefore_empty (ms : List Markup) : joinBefore (.text "") ms = ms := by
  cases ms with
  | nil => rfl
  | cons m rest =>
      cases m with
      | text t => simp [joinBefore]
      | element tag attributes children => rfl

theorem letterBefore_joinBefore (c : Char) (s : String) (ms : List Markup) :
    letterBefore c (joinBefore (.text s) ms) = joinBefore (.text (String.singleton c ++ s)) ms := by
  have filled : String.singleton c ++ s ≠ "" := by simp
  by_cases empty : s = ""
  · subst empty
    rw [joinBefore_empty, String.append_empty]
    cases ms with
    | nil => simp [letterBefore, joinBefore]
    | cons m rest => cases m <;> simp [letterBefore, joinBefore]
  · cases ms with
    | nil => simp [letterBefore, joinBefore, empty]
    | cons m rest =>
        cases m <;> simp [letterBefore, joinBefore, empty, String.append_assoc]

/-- The characters of a text join into the text. -/
theorem place_letters (cs : List Char) (current : List Markup) (outer : List (List Markup)) :
    (cs.map Token.letter).foldr Token.place (current :: outer) =
      joinBefore (.text (String.ofList cs)) current :: outer := by
  induction cs with
  | nil =>
      show current :: outer = joinBefore (.text "") current :: outer
      rw [joinBefore_empty]
  | cons c cs ih =>
      rw [List.map_cons, List.foldr_cons, ih]
      show letterBefore c _ :: outer = _
      rw [letterBefore_joinBefore, String.ofList_cons]

mutual

/-- Read from the right, the tokens of a tree put the joined tree before what has been read. -/
theorem place_tokens (m : Markup) (current : List Markup) (outer : List (List Markup)) :
    m.tokens.foldr Token.place (current :: outer) = joinBefore m.joined current :: outer := by
  match m with
  | .text content =>
      rw [tokens, place_letters, String.ofList_toList, joined]
  | .element tag attributes children =>
      rw [tokens, List.foldr_cons, List.foldr_append]
      show Token.place _ ((tokensOfAll children).foldr Token.place ([] :: current :: outer)) = _
      rw [place_tokensOfAll children]
      rfl

theorem place_tokensOfAll (ms : List Markup) (outer : List (List Markup)) :
    (tokensOfAll ms).foldr Token.place ([] :: outer) = joinedAll ms :: outer := by
  match ms with
  | [] => rfl
  | m :: rest =>
      rw [tokensOfAll, List.foldr_append, place_tokensOfAll rest, place_tokens m, joinedAll]

end

/-! ## The tree of an HTML -/

/-- A joined tree is told by what it is as an only child. -/
theorem joined_of_only {a b : Markup} (same : joinedAll [a] = joinedAll [b]) :
    a.joined = b.joined := by
  cases a with
  | element tag attributes children =>
      cases b with
      | element tag' attributes' children' => exact (List.cons_eq_cons.1 same).1
      | text t =>
          simp only [joinedAll, joined, joinBefore] at same
          split at same <;> cases same
  | text s =>
      cases b with
      | element tag attributes children =>
          simp only [joinedAll, joined, joinBefore] at same
          split at same <;> cases same
      | text t =>
          simp only [joinedAll, joined, joinBefore] at same
          split at same <;> split at same <;> simp_all [joined]

/-- **The HTML of a tree with plain names tells the tree**, up to how its texts are cut. -/
theorem html_eq_iff {a b : Markup} (plainA : a.HasPlainNames) (plainB : b.HasPlainNames) :
    a.html = b.html ↔ a.joined = b.joined := by
  constructor
  · intro same
    have chars : htmlChars a = htmlChars b := String.ofList_inj.1 same
    have tokens : tokensOfAll [a] = tokensOfAll [b] := by
      rw [tokensOfAll, tokensOfAll, tokens_eq_of_chars plainA plainB chars]
      rfl
    have built := congrArg (List.foldr Token.place [[]]) tokens
    rw [place_tokensOfAll, place_tokensOfAll] at built
    exact joined_of_only (List.cons_eq_cons.1 built).1
  · intro same
    rw [html, html, ← htmlChars_joined a, same, htmlChars_joined]

/-- A text that looks like tags and entities is one text, however it is cut. -/
theorem html_of_cut_text :
    let named := Element.named "p" |>.withAttribute "title" "\"><i>"
    let whole := (named.withText "<b>&lt;").toMarkup
    let cut := (named.withText "<b" |>.withText "" |>.withText ">&lt;").toMarkup
    whole.HasPlainNames ∧ cut.HasPlainNames ∧ whole.html = cut.html ∧ whole.joined = cut.joined := by
  intro named whole cut
  have plainWhole : whole.HasPlainNames := ⟨by decide, by decide, trivial, trivial⟩
  have plainCut : cut.HasPlainNames := ⟨by decide, by decide, trivial, trivial, trivial, trivial⟩
  have same : whole.html = cut.html := by decide +kernel
  exact ⟨plainWhole, plainCut, same, (html_eq_iff plainWhole plainCut).1 same⟩

end ConsoleView.Markup
