/-
# ConsoleView.Proofs.Toml.Lines -- what the reader makes of single lines

The reader of a file takes one line per step.  Here is one lemma for each kind
of line that is ever written: a comment, an empty line, the header of a table
and a binding of a plain name.  Each says what the line does to the tables that
have been read, and that the reader goes on with the text after the line.
-/
import ConsoleView.Proofs.Toml.Strings
import ConsoleView.Toml.Reader

namespace ConsoleView.Toml

set_option autoImplicit false

variable {cs rest : List Char} {n : List Char} {room steps : Nat}

/-! ## Plain names -/

/-- A name that needs no quotes. -/
structure Plain (n : List Char) : Prop where
  nonempty : n ≠ []
  bare : ∀ c ∈ n, isBareChar c = true

instance (n : List Char) : Decidable (Plain n) :=
  decidable_of_iff (n ≠ [] ∧ n.all isBareChar = true)
    ⟨fun both => ⟨both.1, List.all_eq_true.1 both.2⟩,
      fun plain => ⟨plain.nonempty, List.all_eq_true.2 plain.bare⟩⟩

/-- A plain name starts with none of the characters that mean something at the start of a line. -/
theorem Plain.cons (plain : Plain n) : ∃ c tail, n = c :: tail ∧ isBlank c = false ∧ c ≠ '"' ∧
    c ≠ '\'' ∧ c ≠ '[' ∧ c ≠ '#' ∧ c ≠ '\n' ∧ c ≠ '\r' := by
  obtain ⟨c, tail, rfl⟩ := List.exists_cons_of_ne_nil plain.nonempty
  have bare := plain.bare c List.mem_cons_self
  have other : ∀ d, isBareChar d = false → c ≠ d := by
    rintro d not rfl
    rw [bare] at not
    cases not
  refine ⟨c, tail, rfl, ?_, other '"' (by decide), other '\'' (by decide), other '[' (by decide),
    other '#' (by decide), other '\n' (by decide), other '\r' (by decide)⟩
  simp [isBlank, other ' ' (by decide), other '\t' (by decide)]

theorem skipBlanks_plain (plain : Plain n) : skipBlanks (n ++ rest) = n ++ rest := by
  obtain ⟨c, tail, rfl, notBlank, -⟩ := plain.cons
  simp [skipBlanks, notBlank]

theorem name_plain (plain : Plain n) (stop : ∀ c ∈ rest.head?, isBareChar c = false) :
    name room (n ++ rest) = some (String.ofList n, rest) := by
  obtain ⟨c, tail, same, -, notDouble, notSingle, -⟩ := plain.cons
  have stops : rest.takeWhile isBareChar = [] ∧ rest.dropWhile isBareChar = rest := by
    cases rest with
    | nil => exact ⟨rfl, rfl⟩
    | cons d rest =>
        have here := stop d rfl
        simp [here]
  have taken : (n ++ rest).takeWhile isBareChar = n := by
    rw [List.takeWhile_append_of_pos plain.bare, stops.1, List.append_nil]
  have left : (n ++ rest).dropWhile isBareChar = rest := by
    rw [List.dropWhile_append_of_pos plain.bare, stops.2]
  have bare : n.isEmpty = false := by simpa using plain.nonempty
  have read : name room (n ++ rest) =
      if ((n ++ rest).takeWhile isBareChar).isEmpty then none
      else some (String.ofList ((n ++ rest).takeWhile isBareChar),
        (n ++ rest).dropWhile isBareChar) := by
    subst same
    simp [name, notDouble, notSingle]
  rw [read, taken, left, bare]
  rfl

/-- A plain name is a key; the blanks after it are passed over. -/
theorem key_plain (plain : Plain n) (pos : 0 < room)
    (stop : ∀ c ∈ rest.head?, isBareChar c = false)
    (undotted : ∀ more, skipBlanks rest ≠ '.' :: more) :
    key room (n ++ rest) = some (([], String.ofList n), skipBlanks rest) := by
  obtain ⟨steps, rfl⟩ : ∃ k, room = k + 1 := ⟨room - 1, by omega⟩
  have single : names (steps + 1) (steps + 1) [] (n ++ rest) =
      some ([String.ofList n], skipBlanks rest) := by
    rw [names, skipBlanks_plain plain, name_plain plain stop]
    simp only
    rfl
  have few : [String.ofList n].length < keyBound := by
    rw [List.length_singleton, keyBound]
    omega
  rw [key, single]
  simp only [if_pos few]
  rfl

theorem keyEquals_plain (plain : Plain n) (pos : 0 < room) :
    keyEquals room (n ++ ' ' :: '=' :: ' ' :: rest) =
      some (([], String.ofList n), skipBlanks rest) := by
  have stop : ∀ c ∈ (' ' :: '=' :: ' ' :: rest).head?, isBareChar c = false := by
    intro c head
    cases head
    decide
  have read : key room (n ++ ' ' :: '=' :: ' ' :: rest) =
      some (([], String.ofList n), '=' :: ' ' :: rest) := key_plain plain pos stop nofun
  rw [keyEquals, read]
  rfl

/-! ## Values -/

theorem textChars_eq_cons (s : String) :
    ∃ q tail, textChars s = q :: tail ∧ (q = '"' ∨ q = '\'') := by
  cases form : formOf s.toList with
  | basic => exact ⟨'"', _, by simp only [textChars, form]; rfl, Or.inl rfl⟩
  | literal => exact ⟨'\'', _, by simp only [textChars, form]; rfl, Or.inr rfl⟩
  | longBasic => exact ⟨'"', _, by simp only [textChars, form]; rfl, Or.inl rfl⟩
  | longLiteral => exact ⟨'\'', _, by simp only [textChars, form]; rfl, Or.inr rfl⟩

theorem value_textChars (s : String) (nesting : Nat) (fits : (textChars s).length ≤ room) :
    value room nesting (textChars s ++ '\n' :: rest) = some (.string s, '\n' :: rest) := by
  have clear : ∀ c ∈ ('\n' :: rest).head?, c ≠ '"' ∧ c ≠ '\'' := by
    intro c head
    cases head
    decide
  have read := text_textChars s fits clear
  obtain ⟨q, tail, written, rfl | rfl⟩ := textChars_eq_cons s
  · rw [written, List.cons_append] at read ⊢
    rw [value, read]
    rfl
  · rw [written, List.cons_append] at read ⊢
    rw [value, read]
    rfl

theorem value_bool (b : Bool) (nesting : Nat) :
    value room nesting ((if b then "true" else "false").toList ++ '\n' :: rest) =
      some (.bool b, '\n' :: rest) := by
  cases b with
  | true =>
      have read : scalar ('t' :: 'r' :: 'u' :: 'e' :: '\n' :: rest) =
          some (.bool true, '\n' :: rest) :=
        rfl
      simpa [value] using read
  | false =>
      have read : scalar ('f' :: 'a' :: 'l' :: 's' :: 'e' :: '\n' :: rest) =
          some (.bool false, '\n' :: rest) := rfl
      simpa [value] using read

/-! ## Lines -/

section Lines

variable {d : Progress}

theorem lines_nil : lines room (steps + 1) d [] = some d := rfl

theorem lines_empty : lines room (steps + 1) d ('\n' :: rest) = lines room steps d rest := rfl

theorem lines_comment (comment : ∀ c ∈ cs, isCommentChar c = true) :
    lines room (steps + 1) d ('#' :: (cs ++ '\n' :: rest)) = lines room steps d rest := by
  have ends : (cs ++ '\n' :: rest).dropWhile isCommentChar = '\n' :: rest := by
    rw [List.dropWhile_append_of_pos comment]
    rfl
  have rest' : restOfLine? ('#' :: (cs ++ '\n' :: rest)) = some rest := by
    have start : skipBlanks ('#' :: (cs ++ '\n' :: rest)) = '#' :: (cs ++ '\n' :: rest) := rfl
    rw [restOfLine?, start, skipComment, ends]
    rfl
  have start : skipBlanks ('#' :: (cs ++ '\n' :: rest)) = '#' :: (cs ++ '\n' :: rest) := rfl
  rw [lines, start]
  simp [rest']

/-- A header opens its table. -/
theorem lines_header (plain : Plain n) (pos : 0 < room) :
    lines room (steps + 1) d ('[' :: (n ++ ']' :: '\n' :: rest)) =
      (d.openHeader [] (String.ofList n) false).bind fun d => lines room steps d rest := by
  have stop : ∀ c ∈ (']' :: '\n' :: rest).head?, isBareChar c = false := by
    intro c head
    cases head
    decide
  have read : key room (n ++ ']' :: '\n' :: rest) =
      some (([], String.ofList n), ']' :: '\n' :: rest) := key_plain plain pos stop nofun
  have opened : header room d (n ++ ']' :: '\n' :: rest) =
      (d.openHeader [] (String.ofList n) false).map fun d => (d, '\n' :: rest) := by
    obtain ⟨c, tail, rfl, -, -, -, notBracket, -⟩ := plain.cons
    rw [List.cons_append] at read ⊢
    rw [header, read]
    · rfl
    · intro more same
      exact notBracket (List.cons.inj same).1
  have start : skipBlanks ('[' :: (n ++ ']' :: '\n' :: rest)) =
      '[' :: (n ++ ']' :: '\n' :: rest) := rfl
  have after : restOfLine? ('\n' :: rest) = some rest := rfl
  rw [lines, start]
  simp only [if_true, opened]
  cases d.openHeader [] (String.ofList n) false with
  | none => rfl
  | some d => simp only [Option.map_some, Option.bind_some, after]

/-- A line binds its name in the table that is open. -/
theorem lines_binding (plain : Plain n) (pos : 0 < room) {v : Toml}
    (unblank : ∀ c ∈ cs.head?, isBlank c = false) (nonempty : cs ≠ [])
    (read : value room maxNesting (cs ++ '\n' :: rest) = some (v, '\n' :: rest)) :
    lines room (steps + 1) d (n ++ ' ' :: '=' :: ' ' :: (cs ++ '\n' :: rest)) =
      (d.bind [] (String.ofList n) v).bind fun d => lines room steps d rest := by
  have skipped : skipBlanks (cs ++ '\n' :: rest) = cs ++ '\n' :: rest := by
    obtain ⟨c, tail, rfl⟩ := List.exists_cons_of_ne_nil nonempty
    have notBlank := unblank c rfl
    simp [skipBlanks, notBlank]
  have bound : binding room d (n ++ ' ' :: '=' :: ' ' :: (cs ++ '\n' :: rest)) =
      (d.bind [] (String.ofList n) v).map fun d => (d, '\n' :: rest) := by
    rw [binding, keyEquals_plain plain pos, skipped]
    simp only [read]
  have after : restOfLine? ('\n' :: rest) = some rest := rfl
  obtain ⟨c, tail, rfl, notBlank, -, -, notBracket, notComment, notFeed, notReturn⟩ := plain.cons
  rw [lines, skipBlanks_plain plain]
  rw [List.cons_append] at bound ⊢
  simp only [notBracket, notComment, notFeed, notReturn, if_false, decide_false, Bool.or_self,
    Bool.false_eq_true, bound]
  cases d.bind [] (String.ofList (c :: tail)) v with
  | none => rfl
  | some d => simp only [Option.map_some, Option.bind_some, after]

end Lines

end ConsoleView.Toml
