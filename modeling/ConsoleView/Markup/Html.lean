/-
# ConsoleView.Markup.Html -- trees as HTML

Every element has an opening and a closing tag.  Texts and attribute values are
escaped, names are not: no text can end a tag, open one, or end an attribute.
Nothing else is done to a text.
-/
import ConsoleView.Markup.Basic

namespace ConsoleView.Markup

set_option autoImplicit false

def escapeText (c : Char) : List Char :=
  if c = '&' then "&amp;".toList
  else if c = '<' then "&lt;".toList
  else if c = '>' then "&gt;".toList
  else [c]

/-- A character of an attribute's value, which stands between quotes. -/
def escapeValue (c : Char) : List Char := if c = '"' then "&quot;".toList else escapeText c

def attributeChars (pair : String × String) : List Char :=
  ' ' :: pair.1.toList ++ ['=', '"'] ++ pair.2.toList.flatMap escapeValue ++ ['"']

def openTag (tag : String) (attributes : Attributes) : List Char :=
  '<' :: tag.toList ++ attributes.pairs.flatMap attributeChars ++ ['>']

def closeTag (tag : String) : List Char := '<' :: '/' :: tag.toList ++ ['>']

mutual

def htmlChars : Markup → List Char
  | .text content => content.toList.flatMap escapeText
  | .element tag attributes children =>
      openTag tag attributes ++ (htmlOfAll children ++ closeTag tag)

def htmlOfAll : List Markup → List Char
  | [] => []
  | m :: rest => htmlChars m ++ htmlOfAll rest

end

def html (m : Markup) : String := String.ofList (htmlChars m)

/-- A less-than sign of a text does not reach the HTML. -/
theorem lt_not_mem_escapeText (c : Char) : '<' ∉ escapeText c := by
  unfold escapeText
  split
  · decide
  · split
    · decide
    · rename_i ne
      split
      · decide
      · exact fun mem => ne (List.mem_singleton.1 mem).symm

example : html (Element.named "a" |>.withAttribute "title" "\"1\" & <2>" |>.withText "1 < 2") =
    "<a title=\"&quot;1&quot; &amp; &lt;2&gt;\">1 &lt; 2</a>" := by decide +kernel

end ConsoleView.Markup
