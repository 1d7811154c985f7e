/-
# ConsoleView.Proofs.Json.Alike -- values with one text

Two values have the same text exactly if they are the same up to numbers that are
printed alike (`print_eq_print_iff`).  That a text is not also the beginning of
another one need not be looked up in the printer: the reader takes each value from
its text and leaves what follows (`chars_append_inj`), so the parts of two equal
texts end at the same place.
-/
import ConsoleView.Proofs.Json.ReadBack

namespace ConsoleView.Json

set_option autoImplicit false

/-- The values are the same, but that a number may stand for another one with the same text. -/
def PrintedAlike : Json → Json → Prop
  | .int n, k => k.IsNumber ∧ chars k = chars (.int n)
  | .real x, k => k.IsNumber ∧ chars k = chars (.real x)
  | .array items, k => ∃ ks, itemsAlike items ks ∧ k = .array ks
  | .object fields, k => ∃ gs, fieldsAlike fields gs ∧ k = .object gs
  | j, k => k = j
where
  itemsAlike : List Json → List Json → Prop
    | [], ks => ks = []
    | j :: rest, ks => ∃ k later, PrintedAlike j k ∧ itemsAlike rest later ∧ ks = k :: later
  fieldsAlike : List (String × Json) → List (String × Json) → Prop
    | [], gs => gs = []
    | (name, j) :: rest, gs =>
        ∃ k later, PrintedAlike j k ∧ fieldsAlike rest later ∧ gs = (name, k) :: later

/-! ## Where texts end -/

variable {u v : List Char}

theorem stringChars_append_inj {s t : String} (same : stringChars s ++ u = stringChars t ++ v) :
    s = t ∧ u = v := by
  rw [stringChars_append, stringChars_append] at same
  have roomS : s.toList.length < s.toList.length + t.toList.length + 1 := by omega
  have roomT : t.toList.length < s.toList.length + t.toList.length + 1 := by omega
  have first := stringEnd_flatMap roomS u
  have second := stringEnd_flatMap roomT v
  rw [(List.cons.inj same).2, second] at first
  obtain ⟨rfl, rfl⟩ := Prod.mk.inj (Except.ok.inj first)
  exact ⟨rfl, rfl⟩

/-- The text of a value does not go on in that of another one. -/
theorem chars_append_inj {a b : Json} (fitsA : a.NumbersFit) (fitsB : b.NumbersFit)
    (endsU : EndsValue u) (endsV : EndsValue v) (same : chars a ++ u = chars b ++ v) :
    chars a = chars b ∧ u = v := by
  obtain ⟨j, -, readsA⟩ := exists_reads (max (chars a).length (chars b).length)
    (max a.depth b.depth) a fitsA (Nat.le_max_left ..) (Nat.le_max_left ..)
  obtain ⟨k, -, readsB⟩ := exists_reads (max (chars a).length (chars b).length)
    (max a.depth b.depth) b fitsB (Nat.le_max_right ..) (Nat.le_max_right ..)
  have both := readsA u endsU
  rw [same, readsB v endsV] at both
  obtain ⟨-, rfl⟩ := Prod.mk.inj (Except.ok.inj both)
  exact ⟨List.append_cancel_right same, rfl⟩

/-- The value is one of the kind. -/
def Kind.Shape : Kind → Json → Prop
  | .null, k => k = .null
  | .yes, k => k = .bool true
  | .no, k => k = .bool false
  | .number, k => k.IsNumber
  | .string, k => ∃ s, k = .string s
  | .array, k => ∃ items, k = .array items
  | .object, k => ∃ fields, k = .object fields

theorem shape_kind (j : Json) : j.kind.Shape j := by
  cases j with
  | null => rfl
  | bool b => cases b <;> rfl
  | int n => trivial
  | real x => trivial
  | string s => exact ⟨s, rfl⟩
  | array items => exact ⟨items, rfl⟩
  | object fields => exact ⟨fields, rfl⟩

/-- Values with one text are of one kind. -/
theorem kind_eq_of_chars {a b : Json} (fitsA : a.NumbersFit) (fitsB : b.NumbersFit)
    (same : chars a = chars b) : a.kind = b.kind := by
  obtain ⟨c, later, textA, kindA⟩ := chars_eq_cons fitsA
  obtain ⟨d, other, textB, kindB⟩ := chars_eq_cons fitsB
  rw [textA, textB] at same
  obtain ⟨rfl, -⟩ := List.cons.inj same
  exact Option.some.inj (kindA.symm.trans kindB)

/-! ## Tails of items and fields -/

theorem itemTail_cons (j : Json) (items : List Json) :
    itemTail (j :: items) = ',' :: (chars j ++ itemTail items) := rfl

theorem fieldTail_cons (name : String) (j : Json) (fields : List (String × Json)) :
    fieldTail ((name, j) :: fields) =
      ',' :: (stringChars name ++ ':' :: (chars j ++ fieldTail fields)) :=
  congrArg (List.cons ',') (List.append_assoc ..)

/-- Two lists that begin with the same character or are empty, and have nothing but that
character before the same text, are the same. -/
theorem eq_of_tail_eq {c : Char} {cs ds : List Char}
    (first : cs = [] ∨ ∃ d rest, cs = c :: d :: rest)
    (second : ds = [] ∨ ∃ d rest, ds = c :: d :: rest) (same : cs.tail = ds.tail) : cs = ds := by
  obtain rfl | ⟨d, rest, rfl⟩ := first <;> obtain rfl | ⟨e, other, rfl⟩ := second
  · rfl
  · cases same
  · cases same
  · exact congrArg (List.cons c) same

theorem itemTail_shape {items : List Json} (fits : NumbersFit.inItems items) :
    itemTail items = [] ∨ ∃ d rest, itemTail items = ',' :: d :: rest := by
  cases items with
  | nil => exact .inl rfl
  | cons j items =>
      obtain ⟨d, rest, text, -⟩ := chars_eq_cons fits.1
      exact .inr ⟨d, rest ++ itemTail items, by rw [itemTail_cons, text]; rfl⟩

theorem fieldTail_shape (fields : List (String × Json)) :
    fieldTail fields = [] ∨ ∃ d rest, fieldTail fields = ',' :: d :: rest := by
  cases fields with
  | nil => exact .inl rfl
  | cons f fields => exact .inr ⟨_, _, rfl⟩

/-! ## The same text -/

mutual

theorem printedAlike_of_chars (a b : Json) (fitsA : a.NumbersFit) (fitsB : b.NumbersFit)
    (same : chars a = chars b) : a.PrintedAlike b := by
  have shape := b.shape_kind
  rw [← kind_eq_of_chars fitsA fitsB same] at shape
  match a with
  | .null | .bool true | .bool false => exact shape
  | .int n => exact ⟨shape, same.symm⟩
  | .real x => exact ⟨shape, same.symm⟩
  | .string s =>
      obtain ⟨t, rfl⟩ := shape
      have both : stringChars s ++ [] = stringChars t ++ [] := congrArg (· ++ []) same
      rw [(stringChars_append_inj both).1]
      rfl
  | .array items =>
      obtain ⟨ks, rfl⟩ := shape
      rw [chars_array, chars_array] at same
      have parts := List.append_cancel_right (List.cons.inj same).2
      have tails := eq_of_tail_eq (itemTail_shape fitsA) (itemTail_shape fitsB) parts
      exact ⟨ks, itemsAlike_of_itemTail items ks fitsA fitsB tails, rfl⟩
  | .object fields =>
      obtain ⟨gs, rfl⟩ := shape
      rw [chars_object, chars_object] at same
      have parts := List.append_cancel_right (List.cons.inj same).2
      have tails := eq_of_tail_eq (fieldTail_shape fields) (fieldTail_shape gs) parts
      exact ⟨gs, fieldsAlike_of_fieldTail fields gs fitsA fitsB tails, rfl⟩

theorem itemsAlike_of_itemTail (items ks : List Json) (fitsI : NumbersFit.inItems items)
    (fitsK : NumbersFit.inItems ks) (same : itemTail items = itemTail ks) :
    PrintedAlike.itemsAlike items ks := by
  match items, ks with
  | [], [] => rfl
  | [], k :: ks => cases same
  | j :: items, [] => cases same
  | j :: items, k :: ks =>
      have ends (items : List Json) : EndsValue (itemTail items) := by
        simpa using endsValue_itemTail items EndsValue.nil
      obtain ⟨first, later⟩ := chars_append_inj fitsI.1 fitsK.1 (ends items) (ends ks)
        (List.cons.inj same).2
      exact ⟨k, ks, printedAlike_of_chars j k fitsI.1 fitsK.1 first,
        itemsAlike_of_itemTail items ks fitsI.2 fitsK.2 later, rfl⟩

theorem fieldsAlike_of_fieldTail (fields gs : List (String × Json))
    (fitsF : NumbersFit.inFields fields) (fitsG : NumbersFit.inFields gs)
    (same : fieldTail fields = fieldTail gs) : PrintedAlike.fieldsAlike fields gs := by
  match fields, gs with
  | [], [] => rfl
  | [], g :: gs => cases same
  | f :: fields, [] => cases same
  | (name, j) :: fields, (other, k) :: gs =>
      have ends (fields : List (String × Json)) : EndsValue (fieldTail fields) := by
        simpa using endsValue_fieldTail fields EndsValue.nil
      rw [fieldTail_cons, fieldTail_cons] at same
      obtain ⟨rfl, values⟩ := stringChars_append_inj (List.cons.inj same).2
      obtain ⟨first, later⟩ := chars_append_inj fitsF.1 fitsG.1 (ends fields) (ends gs)
        (List.cons.inj values).2
      exact ⟨k, gs, printedAlike_of_chars j k fitsF.1 fitsG.1 first,
        fieldsAlike_of_fieldTail fields gs fitsF.2 fitsG.2 later, rfl⟩

end

mutual

theorem chars_of_printedAlike (a b : Json) (alike : a.PrintedAlike b) : chars a = chars b := by
  match a with
  | .null | .bool _ | .string _ => rw [show b = _ from alike]
  | .int n => exact alike.2.symm
  | .real x => exact alike.2.symm
  | .array items =>
      obtain ⟨ks, parts, rfl⟩ := alike
      rw [chars_array, chars_array, itemTail_of_itemsAlike items ks parts]
  | .object fields =>
      obtain ⟨gs, parts, rfl⟩ := alike
      rw [chars_object, chars_object, fieldTail_of_fieldsAlike fields gs parts]

theorem itemTail_of_itemsAlike (items ks : List Json) (alike : PrintedAlike.itemsAlike items ks) :
    itemTail items = itemTail ks := by
  match items with
  | [] => rw [show ks = [] from alike]
  | j :: items =>
      obtain ⟨k, later, first, rest, rfl⟩ := alike
      rw [itemTail_cons, itemTail_cons, chars_of_printedAlike j k first,
        itemTail_of_itemsAlike items later rest]

theorem fieldTail_of_fieldsAlike (fields gs : List (String × Json))
    (alike : PrintedAlike.fieldsAlike fields gs) : fieldTail fields = fieldTail gs := by
  match fields with
  | [] => rw [show gs = [] from alike]
  | (name, j) :: fields =>
      obtain ⟨k, later, first, rest, rfl⟩ := alike
      rw [fieldTail_cons, fieldTail_cons, chars_of_printedAlike j k first,
        fieldTail_of_fieldsAlike fields later rest]

end

/-- **Two values have one text exactly if they are the same up to numbers printed alike.** -/
theorem print_eq_print_iff {a b : Json} (fitsA : a.NumbersFit) (fitsB : b.NumbersFit) :
    a.print = b.print ↔ a.PrintedAlike b := by
  rw [print, print, String.ofList_inj]
  exact ⟨printedAlike_of_chars a b fitsA fitsB, chars_of_printedAlike a b⟩

/-- The text of an object depends on the texts of its values only. -/
theorem print_object_congr {fields gs : Entries Json}
    (same : fields.map (fun f => (f.1, chars f.2)) = gs.map fun f => (f.1, chars f.2)) :
    (Json.object fields).print = (Json.object gs).print := by
  have tail (fields : Entries Json) : fieldTail fields =
      (fields.map fun f => (f.1, chars f.2)).flatMap
        fun g => ',' :: (stringChars g.1 ++ ':' :: g.2) := by
    rw [List.flatMap_map]
    rfl
  rw [print, print, chars_object, chars_object, tail, tail, same]

/-- Objects that are printed alike have values printed alike at each name. -/
theorem rel_get?_of_fieldsAlike {fields gs : Entries Json}
    (alike : PrintedAlike.fieldsAlike fields gs) (name : String) :
    Option.Rel PrintedAlike (Entries.get? fields name) (Entries.get? gs name) := by
  induction fields generalizing gs with
  | nil =>
      obtain rfl : gs = [] := alike
      exact .none
  | cons f fields ih =>
      obtain ⟨k, later, first, rest, rfl⟩ := alike
      rw [Entries.get?_cons, Entries.get?_cons]
      split
      · exact .some first
      · exact ih rest

end ConsoleView.Json
