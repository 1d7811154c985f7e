/-
# ConsoleView.Proofs.Json.ReadBack -- what is printed is read again

The text of a value whose numbers fit is read, and what is read is that value up to
the doubles in it, with the fields of its objects in ascending order (`RereadAs`,
`read_print`).  The text of an array or an object is its first item and a tail of
items with a comma before each; the loops of the reader take one item of the tail in
one step, whatever they have taken before.
-/
import ConsoleView.Json.Reader
import ConsoleView.Proofs.Json.Numbers
import ConsoleView.Proofs.Json.NumberText

namespace ConsoleView.Json

set_option autoImplicit false

/-! ## Strings -/

theorem hexFour_hexPair {n : Nat} (small : n < 0x20) (rest : List Char) :
    hexFour ('0' :: '0' :: (hexPair n ++ rest)) = .ok (n, rest) := by
  have digits : ∀ n < 0x20, hexDigit? (Nat.digitChar (n / 16)) = some (n / 16) ∧
      hexDigit? (Nat.digitChar (n % 16)) = some (n % 16) := by decide
  obtain ⟨high, low⟩ := digits n small
  have value : (0 * 16 + 0) * 256 + (n / 16 * 16 + n % 16) = n := by omega
  have zero : hexDigit? '0' = some 0 := rfl
  simp only [hexFour, hexPair, List.cons_append, List.nil_append, high, low, zero,
    Option.bind_eq_bind, Option.bind_some, value]

theorem unicodeEscape_hexPair {c : Char} (small : c.toNat < 0x20) (rest : List Char) :
    unicodeEscape ('0' :: '0' :: (hexPair c.toNat ++ rest)) = .ok (c, rest) := by
  have plain : ¬ (0xDC00 ≤ c.toNat ∧ c.toNat ≤ 0xDFFF) ∧
      ¬ (0xD800 ≤ c.toNat ∧ c.toNat ≤ 0xDBFF) := by omega
  simp only [unicodeEscape, hexFour_hexPair small, bind, Except.bind, if_neg plain.1,
    if_neg plain.2, Char.ofNat_toNat]

/-- The reader takes one character as it is written. -/
theorem stringChar_escapeChar (c : Char) (rest : List Char) :
    stringChar (escapeChar c ++ rest) = .ok (some c, rest) := by
  unfold escapeChar
  by_cases quote : c = '"'
  · subst quote; rfl
  by_cases backslash : c = '\\'
  · subst backslash; rfl
  rw [if_neg quote, if_neg backslash]
  by_cases visible : 0x20 ≤ c.toNat
  · rw [if_pos visible]
    show stringChar (c :: rest) = _
    unfold stringChar
    split
    · rename_i nothing
      cases nothing
    · rename_i text
      exact absurd (List.cons.inj text).1 quote
    · rename_i text
      exact absurd (List.cons.inj text).1 backslash
    · rename_i text
      obtain ⟨rfl, rfl⟩ := List.cons.inj text
      rw [if_neg (by omega)]
  rw [if_neg visible]
  split
  · subst c; rfl
  split
  · subst c; rfl
  split
  · subst c; rfl
  split
  · rename_i code
    obtain rfl : c = '\x08' := Char.toNat_inj.1 code
    rfl
  split
  · rename_i code
    obtain rfl : c = '\x0C' := Char.toNat_inj.1 code
    rfl
  · show (unicodeEscape ('0' :: '0' :: (hexPair c.toNat ++ rest)) >>= _) = _
    rw [unicodeEscape_hexPair (by omega)]
    rfl

theorem escapeChar_ne_nil (c : Char) : escapeChar c ≠ [] := by
  intro nothing
  have read := stringChar_escapeChar c []
  rw [nothing] at read
  cases read

theorem stringLoop_flatMap {cs taken rest : List Char} {fuel : Nat} (room : cs.length < fuel) :
    stringLoop fuel taken (cs.flatMap escapeChar ++ '"' :: rest) =
      .ok (String.ofList (taken.reverse ++ cs), rest) := by
  induction cs generalizing fuel taken with
  | nil =>
      obtain ⟨fuel, rfl⟩ := Nat.exists_eq_succ_of_ne_zero room.ne_bot
      rw [List.append_nil]
      rfl
  | cons c cs ih =>
      obtain ⟨fuel, rfl⟩ := Nat.exists_eq_succ_of_ne_zero room.ne_bot
      rw [List.flatMap_cons, List.append_assoc, stringLoop, stringChar_escapeChar]
      dsimp only
      rw [ih (Nat.lt_of_succ_lt_succ room), List.reverse_cons, List.append_assoc]
      rfl

theorem stringChars_append (s : String) (rest : List Char) :
    stringChars s ++ rest = '"' :: (s.toList.flatMap escapeChar ++ '"' :: rest) := by
  simp only [stringChars, List.cons_append, List.append_assoc, List.nil_append]

/-- A string is read up to its closing quote. -/
theorem stringEnd_flatMap {s : String} {room : Nat} (space : s.toList.length < room)
    (rest : List Char) :
    stringEnd room (s.toList.flatMap escapeChar ++ '"' :: rest) = .ok (s, rest) := by
  rw [stringEnd, stringLoop_flatMap space, List.reverse_nil, List.nil_append, String.ofList_toList]

theorem length_le_flatMap_escapeChar (cs : List Char) :
    cs.length ≤ (cs.flatMap escapeChar).length := by
  induction cs with
  | nil => exact Nat.le_refl 0
  | cons c cs ih =>
      have one := List.length_pos_iff.2 (escapeChar_ne_nil c)
      rw [List.flatMap_cons, List.length_append, List.length_cons]
      omega

theorem length_stringChars (s : String) : s.toList.length + 2 ≤ (stringChars s).length := by
  have := length_le_flatMap_escapeChar s.toList
  simp only [stringChars, List.cons_append, List.length_cons, List.length_append, List.length_nil]
  omega

/-! ## What is read -/

/-- The second value is the first one as it is read from its text: a double is some double, the
fields of an object are in ascending order, with the last one of each name, and all else is the
same. -/
def RereadAs : Json → Json → Prop
  | .real _, k => ∃ y, k = .real y
  | .array items, k => ∃ ks, itemsAs items ks ∧ k = .array ks
  | .object fields, k => ∃ ks, fieldsAs fields ks ∧ k = ofMap (NameMap.ofList ks)
  | j, k => k = j
where
  itemsAs : List Json → List Json → Prop
    | [], ks => ks = []
    | j :: rest, ks => ∃ k later, RereadAs j k ∧ itemsAs rest later ∧ ks = k :: later
  fieldsAs : List (String × Json) → List (String × Json) → Prop
    | [], ks => ks = []
    | (name, j) :: rest, ks =>
        ∃ k later, RereadAs j k ∧ fieldsAs rest later ∧ ks = (name, k) :: later

/-- The reader takes the text for the value, whatever follows it. -/
def Reads {α : Type} (reader : Reader α) (text : List Char) (a : α) : Prop :=
  ∀ rest, EndsValue rest → reader (text ++ rest) = .ok (a, rest)

/-! ## Numbers -/

def signChars (negative : Bool) : List Char := if negative then ['-'] else []

def IsNumber : Json → Prop
  | .int _ | .real _ => True
  | _ => False

/-- The text of a number is a sign and what is read after it. -/
theorem exists_number {j : Json} (isNumber : j.IsNumber) (fits : j.NumbersFit) :
    ∃ negative ds k, chars j = signChars negative ++ ds ∧ j.RereadAs k ∧
      Reads (number negative) ds k := by
  match j with
  | .int n =>
      obtain ⟨low, high⟩ : -2 ^ 63 ≤ n ∧ n < 2 ^ 64 := fits
      have small : n.natAbs < significandBound := by unfold significandBound; omega
      have value : integer (decide (n < 0)) n.natAbs = .int n := by
        unfold integer
        by_cases sign : n < 0
        · have inside : ¬ (n.natAbs = 0 ∨ maxNegative < n.natAbs) := by
            unfold maxNegative
            omega
          rw [if_pos (decide_eq_true sign), if_neg inside]
          exact congrArg Json.int (by omega)
        · rw [if_neg (by simpa using sign)]
          exact congrArg Json.int (by omega)
      refine ⟨decide (n < 0), decimalDigits n.natAbs, .int n, ?_, rfl, fun rest ends => ?_⟩
      · show intChars n = _
        rw [intChars, signChars]
        simp only [decide_eq_true_eq]
      · rw [number_decimalDigits small ends, value]
  | .real x =>
      obtain ⟨negative, value, double⟩ := finite_ofFloat fits
      have readable := Dyadic.readable_shortest (isDouble_ofBits double)
      obtain ⟨y, read⟩ := readsReal_writeDecimal negative readable
      refine ⟨negative, numberLayout.writeDecimal (value.shortest .toEven), .real y, ?_, ⟨y, rfl⟩,
        read⟩
      show realChars x = _
      simp only [realChars, double]
      rfl

/-- A text that can be read as a number begins with a digit. -/
theorem isDigit_of_number {negative : Bool} {text : List Char} {r : Json × List Char}
    (read : number negative text = .ok r) : ∃ c rest, text = c :: rest ∧ c.isDigit = true := by
  cases text with
  | nil => cases read
  | cons c rest =>
      refine ⟨c, rest, rfl, ?_⟩
      by_contra other
      have nonzero : c ≠ '0' := by
        rintro rfl
        exact other rfl
      simp only [number, if_neg nonzero, if_neg other] at read
      cases read

/-! ## First characters -/

/-- What the first character of a text tells about the value. -/
inductive Kind where
  | null
  | yes
  | no
  | number
  | string
  | array
  | object
deriving DecidableEq

def kind : Json → Kind
  | .null => .null
  | .bool true => .yes
  | .bool false => .no
  | .int _ | .real _ => .number
  | .string _ => .string
  | .array _ => .array
  | .object _ => .object

/-- The kind of the values whose text begins with this character. -/
def kindOf? (c : Char) : Option Kind :=
  if c.isDigit then some .number
  else if c = '-' then some .number
  else if c = 'n' then some .null
  else if c = 't' then some .yes
  else if c = 'f' then some .no
  else if c = '"' then some .string
  else if c = '[' then some .array
  else if c = '\x7b' then some .object
  else none

theorem kindOf?_number {negative : Bool} {ds : List Char} {r : Json × List Char}
    (read : number negative ds = .ok r) :
    ∃ c rest, signChars negative ++ ds = c :: rest ∧ kindOf? c = some .number := by
  obtain ⟨c, rest, rfl, digit⟩ := isDigit_of_number read
  cases negative
  · exact ⟨c, rest, rfl, if_pos digit⟩
  · exact ⟨'-', c :: rest, rfl, rfl⟩

theorem chars_eq_cons {j : Json} (fits : j.NumbersFit) :
    ∃ c rest, chars j = c :: rest ∧ kindOf? c = some j.kind := by
  have number {j : Json} (isNumber : j.IsNumber) (fits : j.NumbersFit) :
      ∃ c rest, chars j = c :: rest ∧ kindOf? c = some .number := by
    obtain ⟨negative, ds, k, text, -, read⟩ := exists_number isNumber fits
    have begins := kindOf?_number (read [] .nil)
    rwa [List.append_nil, ← text] at begins
  match j with
  | .null | .bool true | .bool false => exact ⟨_, _, rfl, rfl⟩
  | .string _ | .array _ | .object _ => exact ⟨_, _, rfl, rfl⟩
  | .int n => exact number (j := .int n) trivial fits
  | .real x => exact number (j := .real x) trivial fits

/-- What begins a value is no blank and closes no array. -/
theorem opens_of_kindOf? {c : Char} {k : Kind} (begins : kindOf? c = some k) :
    isBlank c = false ∧ c ≠ ']' := by
  constructor
  · rw [Bool.eq_false_iff]
    intro blank
    simp only [isBlank, Bool.or_eq_true, decide_eq_true_eq] at blank
    obtain ((rfl | rfl) | rfl) | rfl := blank <;> cases begins
  · rintro rfl
    cases begins

/-! ## Values without parts -/

theorem skipBlanks_cons {c : Char} (visible : isBlank c = false) (rest : List Char) :
    skipBlanks (c :: rest) = c :: rest := by
  simp only [skipBlanks, List.dropWhile_cons, visible, Bool.false_eq_true, if_false]

variable {room nesting : Nat}

theorem value_minus (rest : List Char) :
    value room nesting ('-' :: rest) = number true rest := by
  rw [value]
  rfl

theorem value_digit {c : Char} (digit : c.isDigit = true) (rest : List Char) :
    value room nesting (c :: rest) = number false (c :: rest) := by
  have visible := (opens_of_kindOf? (c := c) (if_pos digit)).1
  rw [value, skipBlanks_cons visible]
  split <;> rename_i text
  · cases text
  all_goals
    obtain ⟨rfl, rfl⟩ := List.cons.inj text
    first
    | cases digit
    | rw [if_pos digit]

theorem reads_number {negative : Bool} {ds : List Char} {k : Json}
    (read : Reads (number negative) ds k) :
    Reads (value room nesting) (signChars negative ++ ds) k := by
  intro rest ends
  cases negative
  · obtain ⟨c, later, digits, digit⟩ := isDigit_of_number (read rest ends)
    show value room nesting (ds ++ rest) = _
    rw [← read rest ends, digits, value_digit digit]
  · show value room nesting ('-' :: (ds ++ rest)) = _
    rw [value_minus, read rest ends]

theorem reads_string {s : String} (space : s.toList.length < room) :
    Reads (value room nesting) (stringChars s) (.string s) := by
  intro rest _
  rw [stringChars_append, value]
  show (stringEnd room (s.toList.flatMap escapeChar ++ '"' :: rest) >>= _) = _
  rw [stringEnd_flatMap space]
  rfl

theorem reads_null : Reads (value room nesting) (chars .null) .null := by
  intro rest _
  rw [value]
  rfl

theorem reads_bool (b : Bool) : Reads (value room nesting) (chars (.bool b)) (.bool b) := by
  intro rest _
  rw [value]
  cases b <;> rfl

/-! ## Arrays -/

/-- Items after the first one, each behind a comma. -/
def itemTail (items : List Json) : List Char := items.flatMap fun j => ',' :: chars j

theorem itemChars_cons (j : Json) (items : List Json) :
    itemChars (j :: items) = chars j ++ itemTail items := by
  induction items generalizing j with
  | nil => exact (List.append_nil _).symm
  | cons k items ih =>
      show chars j ++ ',' :: itemChars (k :: items) = _
      rw [ih k]
      rfl

theorem chars_array (items : List Json) :
    chars (.array items) = '[' :: (itemTail items).tail ++ [']'] := by
  cases items with
  | nil => rfl
  | cons j items =>
      show '[' :: itemChars (j :: items) ++ [']'] = _
      rw [itemChars_cons]
      rfl

theorem endsValue_itemTail (items : List Json) {rest : List Char} (ends : EndsValue rest) :
    EndsValue (itemTail items ++ rest) := by
  cases items with
  | nil => exact ends
  | cons j items => exact .inl rfl

section ItemLoop

variable {reader : Reader Json} {fuel : Nat}

theorem itemLoop_end (taken : List Json) (rest : List Char) :
    itemLoop reader (fuel + 1) taken (']' :: rest) = .ok (.array taken.reverse, rest) := by
  rw [itemLoop]
  rfl

theorem itemLoop_first {j k : Json} {rest : List Char} (fits : j.NumbersFit)
    (read : reader (chars j ++ rest) = .ok (k, rest)) :
    itemLoop reader (fuel + 1) [] (chars j ++ rest) = itemLoop reader fuel [k] rest := by
  obtain ⟨c, later, text, begins⟩ := chars_eq_cons fits
  obtain ⟨visible, opening⟩ := opens_of_kindOf? begins
  rw [text, List.cons_append] at read ⊢
  rw [itemLoop, skipBlanks_cons visible]
  split <;> rename_i shown
  · cases shown
  · exact absurd (List.cons.inj shown).1 opening
  · obtain ⟨rfl, rfl⟩ := List.cons.inj shown
    dsimp only
    rw [if_pos List.isEmpty_nil, read]

theorem itemLoop_next {i j k : Json} {taken : List Json} {rest : List Char} (fits : j.NumbersFit)
    (read : reader (chars j ++ rest) = .ok (k, rest)) :
    itemLoop reader (fuel + 1) (i :: taken) (',' :: (chars j ++ rest)) =
      itemLoop reader fuel (k :: i :: taken) rest := by
  obtain ⟨c, later, text, begins⟩ := chars_eq_cons fits
  obtain ⟨visible, opening⟩ := opens_of_kindOf? begins
  rw [text, List.cons_append] at read ⊢
  rw [itemLoop, skipBlanks_cons rfl]
  split <;> rename_i comma
  · cases comma
  · cases comma
  · obtain ⟨rfl, rfl⟩ := List.cons.inj comma
    dsimp only
    rw [if_neg (by simp), if_pos rfl, skipBlanks_cons visible]
    split <;> rename_i shown
    · cases shown
    · exact absurd (List.cons.inj shown).1 opening
    · rw [read]

/-- The loop takes the tail of an array item by item. -/
theorem itemLoop_itemTail {items ks : List Json} (fits : NumbersFit.inItems items)
    (reads : List.Forall₂ (fun j k => Reads reader (chars j) k) items ks) {i : Json}
    {taken : List Json} (space : items.length < fuel) (rest : List Char) :
    itemLoop reader fuel (i :: taken) (itemTail items ++ ']' :: rest) =
      .ok (.array ((i :: taken).reverse ++ ks), rest) := by
  induction reads generalizing fuel i taken with
  | nil =>
      obtain ⟨fuel, rfl⟩ := Nat.exists_eq_succ_of_ne_zero space.ne_bot
      rw [List.append_nil]
      exact itemLoop_end (i :: taken) rest
  | @cons j k items ks first _ ih =>
      obtain ⟨fuel, rfl⟩ := Nat.exists_eq_succ_of_ne_zero space.ne_bot
      have text : itemTail (j :: items) ++ ']' :: rest =
          ',' :: (chars j ++ (itemTail items ++ ']' :: rest)) := by
        simp only [itemTail, List.flatMap_cons, List.cons_append, List.append_assoc]
      rw [text, itemLoop_next fits.1 (first _ (endsValue_itemTail items (.bracket rest))),
        ih fits.2 (Nat.lt_of_succ_lt_succ space), List.reverse_cons (a := k), List.append_assoc]
      rfl

theorem itemLoop_items {items ks : List Json} (fits : NumbersFit.inItems items)
    (reads : List.Forall₂ (fun j k => Reads reader (chars j) k) items ks)
    (space : items.length < fuel) (rest : List Char) :
    itemLoop reader fuel [] ((itemTail items).tail ++ ']' :: rest) = .ok (.array ks, rest) := by
  obtain ⟨fuel, rfl⟩ := Nat.exists_eq_succ_of_ne_zero space.ne_bot
  cases reads with
  | nil => exact itemLoop_end [] rest
  | @cons j k items ks first later =>
      have text : (itemTail (j :: items)).tail ++ ']' :: rest =
          chars j ++ (itemTail items ++ ']' :: rest) := List.append_assoc ..
      rw [text, itemLoop_first fits.1 (first _ (endsValue_itemTail items (.bracket rest))),
        itemLoop_itemTail fits.2 later (Nat.lt_of_succ_lt_succ space)]
      rfl

end ItemLoop

/-! ## Objects -/

/-- A name, a colon and a value. -/
def fieldText (f : String × Json) : List Char := stringChars f.1 ++ ':' :: chars f.2

def fieldTail (fields : List (String × Json)) : List Char :=
  fields.flatMap fun f => ',' :: fieldText f

theorem fieldChars_cons (f : String × Json) (fields : List (String × Json)) :
    fieldChars (f :: fields) = fieldText f ++ fieldTail fields := by
  induction fields generalizing f with
  | nil => exact (List.append_nil _).symm
  | cons g fields ih =>
      show stringChars f.1 ++ ':' :: chars f.2 ++ ',' :: fieldChars (g :: fields) = _
      rw [ih g]
      rfl

theorem chars_object (fields : List (String × Json)) :
    chars (.object fields) = '\x7b' :: (fieldTail fields).tail ++ ['\x7d'] := by
  cases fields with
  | nil => rfl
  | cons f fields =>
      show '\x7b' :: fieldChars (f :: fields) ++ ['\x7d'] = _
      rw [fieldChars_cons]
      rfl

theorem endsValue_fieldTail (fields : List (String × Json)) {rest : List Char}
    (ends : EndsValue rest) : EndsValue (fieldTail fields ++ rest) := by
  cases fields with
  | nil => exact ends
  | cons f fields => exact .inl rfl

section FieldLoop

variable {reader : Reader Json} {fuel : Nat}

/-- The reader takes the value of a field, and has room for its name. -/
def ReadsField (room : Nat) (reader : Reader Json) (f g : String × Json) : Prop :=
  g.1 = f.1 ∧ f.1.toList.length < room ∧ Reads reader (chars f.2) g.2

theorem fieldLoop_end (taken : List (String × Json)) (rest : List Char) :
    fieldLoop room reader (fuel + 1) taken ('\x7d' :: rest) =
      .ok (ofMap (NameMap.ofList taken.reverse), rest) := by
  rw [fieldLoop]
  rfl

theorem fieldText_append (f : String × Json) (rest : List Char) :
    fieldText f ++ rest =
      '"' :: (f.1.toList.flatMap escapeChar ++ '"' :: ':' :: (chars f.2 ++ rest)) := by
  rw [fieldText, List.append_assoc, stringChars_append]
  rfl

theorem fieldValue_colon (rest : List Char) : fieldValue reader (':' :: rest) = reader rest := rfl

/-- The loop at a field, after the quote that opens its name. -/
def fieldStep (room : Nat) (reader : Reader Json) (fuel : Nat) (taken : List (String × Json))
    (cs : List Char) : Except Fault (Json × List Char) :=
  match stringEnd room cs with
  | .error fault => .error fault
  | .ok (name, rest) =>
      match fieldValue reader rest with
      | .error fault => .error fault
      | .ok (j, rest) => fieldLoop room reader fuel ((name, j) :: taken) rest

theorem fieldLoop_quote (cs : List Char) :
    fieldLoop room reader (fuel + 1) [] ('"' :: cs) = fieldStep room reader fuel [] cs := by
  rw [fieldLoop]
  rfl

theorem fieldLoop_comma (f : String × Json) (taken : List (String × Json)) (cs : List Char) :
    fieldLoop room reader (fuel + 1) (f :: taken) (',' :: '"' :: cs) =
      fieldStep room reader fuel (f :: taken) cs := by
  rw [fieldLoop]
  rfl

theorem fieldStep_field {f g : String × Json} {taken : List (String × Json)} {rest : List Char}
    (reads : ReadsField room reader f g) (ends : EndsValue rest) :
    fieldStep room reader fuel taken
        (f.1.toList.flatMap escapeChar ++ '"' :: ':' :: (chars f.2 ++ rest)) =
      fieldLoop room reader fuel (g :: taken) rest := by
  obtain ⟨name, space, read⟩ := reads
  rw [fieldStep, stringEnd_flatMap space]
  dsimp only
  rw [fieldValue_colon, read rest ends, ← name]

/-- The loop takes the tail of an object field by field. -/
theorem fieldLoop_fieldTail {fields gs : List (String × Json)}
    (reads : List.Forall₂ (ReadsField room reader) fields gs) {f : String × Json}
    {taken : List (String × Json)} (space : fields.length < fuel) (rest : List Char) :
    fieldLoop room reader fuel (f :: taken) (fieldTail fields ++ '\x7d' :: rest) =
      .ok (ofMap (NameMap.ofList ((f :: taken).reverse ++ gs)), rest) := by
  induction reads generalizing fuel f taken with
  | nil =>
      obtain ⟨fuel, rfl⟩ := Nat.exists_eq_succ_of_ne_zero space.ne_bot
      rw [List.append_nil]
      exact fieldLoop_end (f :: taken) rest
  | @cons g h fields gs first _ ih =>
      obtain ⟨fuel, rfl⟩ := Nat.exists_eq_succ_of_ne_zero space.ne_bot
      have text : fieldTail (g :: fields) ++ '\x7d' :: rest =
          ',' :: (fieldText g ++ (fieldTail fields ++ '\x7d' :: rest)) := by
        simp only [fieldTail, List.flatMap_cons, List.cons_append, List.append_assoc]
      rw [text, fieldText_append, fieldLoop_comma,
        fieldStep_field first (endsValue_fieldTail fields (.brace rest)),
        ih (Nat.lt_of_succ_lt_succ space), List.reverse_cons (a := h), List.append_assoc]
      rfl

theorem fieldLoop_fields {fields gs : List (String × Json)}
    (reads : List.Forall₂ (ReadsField room reader) fields gs) (space : fields.length < fuel)
    (rest : List Char) :
    fieldLoop room reader fuel [] ((fieldTail fields).tail ++ '\x7d' :: rest) =
      .ok (ofMap (NameMap.ofList gs), rest) := by
  obtain ⟨fuel, rfl⟩ := Nat.exists_eq_succ_of_ne_zero space.ne_bot
  cases reads with
  | nil => exact fieldLoop_end [] rest
  | @cons f g fields gs first later =>
      have text : (fieldTail (f :: fields)).tail ++ '\x7d' :: rest =
          fieldText f ++ (fieldTail fields ++ '\x7d' :: rest) := List.append_assoc ..
      rw [text, fieldText_append, fieldLoop_quote,
        fieldStep_field first (endsValue_fieldTail fields (.brace rest)),
        fieldLoop_fieldTail later (Nat.lt_of_succ_lt_succ space)]
      rfl

end FieldLoop

/-! ## Values -/

theorem value_bracket (rest : List Char) :
    value room (nesting + 1) ('[' :: rest) = itemLoop (value room nesting) room [] rest := by
  rw [value]
  rfl

theorem value_brace (rest : List Char) :
    value room (nesting + 1) ('\x7b' :: rest) =
      fieldLoop room (value room nesting) room [] rest := by
  rw [value]
  rfl

theorem reads_array {items ks : List Json} (fits : NumbersFit.inItems items)
    (reads : List.Forall₂ (fun j k => Reads (value room nesting) (chars j) k) items ks)
    (space : items.length < room) :
    Reads (value room (nesting + 1)) (chars (.array items)) (.array ks) := by
  intro rest _
  rw [chars_array, List.append_assoc]
  exact (value_bracket _).trans (itemLoop_items fits reads space rest)

theorem reads_object {fields gs : List (String × Json)}
    (reads : List.Forall₂ (ReadsField room (value room nesting)) fields gs)
    (space : fields.length < room) :
    Reads (value room (nesting + 1)) (chars (.object fields)) (ofMap (NameMap.ofList gs)) := by
  intro rest _
  rw [chars_object, List.append_assoc]
  exact (value_brace _).trans (fieldLoop_fields reads space rest)

theorem length_itemTail (items : List Json) : items.length ≤ (itemTail items).length := by
  induction items with
  | nil => exact Nat.le_refl 0
  | cons j items ih =>
      simp only [itemTail, List.flatMap_cons, List.length_append, List.length_cons] at ih ⊢
      omega

theorem length_fieldTail (fields : List (String × Json)) :
    fields.length ≤ (fieldTail fields).length := by
  induction fields with
  | nil => exact Nat.le_refl 0
  | cons f fields ih =>
      simp only [fieldTail, List.flatMap_cons, List.length_append, List.length_cons] at ih ⊢
      omega

theorem length_chars_array (items : List Json) :
    (itemTail items).length < (chars (.array items)).length := by
  rw [chars_array, List.length_append, List.length_cons, List.length_tail, List.length_singleton]
  omega

theorem length_chars_object (fields : List (String × Json)) :
    (fieldTail fields).length < (chars (.object fields)).length := by
  rw [chars_object, List.length_append, List.length_cons, List.length_tail, List.length_singleton]
  omega

mutual

/-- **The text of a value is read**, with room for its characters and as deep as it is nested. -/
theorem exists_reads (room nesting : Nat) (j : Json) (fits : j.NumbersFit)
    (space : (chars j).length ≤ room) (deep : j.depth ≤ nesting) :
    ∃ k, j.RereadAs k ∧ Reads (value room nesting) (chars j) k := by
  match j with
  | .null => exact ⟨.null, rfl, reads_null⟩
  | .bool b => exact ⟨.bool b, rfl, reads_bool b⟩
  | .int n =>
      obtain ⟨negative, ds, k, text, reread, read⟩ := exists_number (j := .int n) trivial fits
      exact ⟨k, reread, text ▸ reads_number read⟩
  | .real x =>
      obtain ⟨negative, ds, k, text, reread, read⟩ := exists_number (j := .real x) trivial fits
      exact ⟨k, reread, text ▸ reads_number read⟩
  | .string s =>
      have short : s.toList.length + 2 ≤ (chars (.string s)).length := length_stringChars s
      exact ⟨.string s, rfl, reads_string (by omega)⟩
  | .array items =>
      have short := length_chars_array items
      have count := length_itemTail items
      obtain ⟨nesting, rfl⟩ : ∃ n, nesting = n + 1 := by
        rw [depth] at deep
        exact Nat.exists_eq_succ_of_ne_zero (by omega)
      obtain ⟨ks, reread, reads⟩ := exists_readsItems room nesting items fits (by omega)
        (by rw [depth] at deep; omega)
      exact ⟨.array ks, ⟨ks, reread, rfl⟩, reads_array fits reads (by omega)⟩
  | .object fields =>
      have short := length_chars_object fields
      have count := length_fieldTail fields
      obtain ⟨nesting, rfl⟩ : ∃ n, nesting = n + 1 := by
        rw [depth] at deep
        exact Nat.exists_eq_succ_of_ne_zero (by omega)
      obtain ⟨gs, reread, reads⟩ := exists_readsFields room nesting fields fits (by omega)
        (by rw [depth] at deep; omega)
      exact ⟨_, ⟨gs, reread, rfl⟩, reads_object reads (by omega)⟩

theorem exists_readsItems (room nesting : Nat) (items : List Json) (fits : NumbersFit.inItems items)
    (space : (itemTail items).length ≤ room) (deep : depth.depthItems items ≤ nesting) :
    ∃ ks, RereadAs.itemsAs items ks ∧
      List.Forall₂ (fun j k => Reads (value room nesting) (chars j) k) items ks := by
  match items with
  | [] => exact ⟨[], rfl, .nil⟩
  | j :: items =>
      have shorter : (chars j).length + (itemTail items).length ≤
          (itemTail (j :: items)).length := by
        simp only [itemTail, List.flatMap_cons, List.length_append, List.length_cons]
        omega
      rw [depth.depthItems] at deep
      obtain ⟨k, first, read⟩ := exists_reads room nesting j fits.1 (by omega) (by omega)
      obtain ⟨ks, later, reads⟩ := exists_readsItems room nesting items fits.2 (by omega) (by omega)
      exact ⟨k :: ks, ⟨k, ks, first, later, rfl⟩, .cons read reads⟩

theorem exists_readsFields (room nesting : Nat) (fields : List (String × Json))
    (fits : NumbersFit.inFields fields) (space : (fieldTail fields).length ≤ room)
    (deep : depth.depthFields fields ≤ nesting) :
    ∃ gs, RereadAs.fieldsAs fields gs ∧
      List.Forall₂ (ReadsField room (value room nesting)) fields gs := by
  match fields with
  | [] => exact ⟨[], rfl, .nil⟩
  | (name, j) :: fields =>
      have shorter : (stringChars name).length + (chars j).length + (fieldTail fields).length ≤
          (fieldTail ((name, j) :: fields)).length := by
        simp only [fieldTail, fieldText, List.flatMap_cons, List.length_append, List.length_cons]
        omega
      have named := length_stringChars name
      rw [depth.depthFields] at deep
      obtain ⟨k, first, read⟩ := exists_reads room nesting j fits.1 (by omega) (by omega)
      obtain ⟨gs, later, reads⟩ :=
        exists_readsFields room nesting fields fits.2 (by omega) (by omega)
      exact ⟨(name, k) :: gs, ⟨k, gs, first, later, rfl⟩,
        .cons ⟨rfl, show name.toList.length < room by omega, read⟩ reads⟩

end

/-- **What is printed is read again**, by every reader that goes as deep as the value is nested. -/
theorem read_print {j : Json} (fits : j.NumbersFit) {nesting : Nat} (deep : j.depth ≤ nesting) :
    ∃ k, j.RereadAs k ∧ Json.read nesting j.print = .ok k := by
  obtain ⟨k, reread, reads⟩ :=
    exists_reads ((chars j).length + 1) nesting j fits (Nat.le_succ _) deep
  refine ⟨k, reread, ?_⟩
  have all := reads [] .nil
  rw [List.append_nil] at all
  simp only [Json.read, print, String.toList_ofList, readChars, all]
  rfl

/-! ## Fields -/

/-- Names stay, and the values at them are read as values. -/
theorem rel_get?_of_fieldsAs {fields gs : Entries Json} (reread : RereadAs.fieldsAs fields gs) :
    gs.map Prod.fst = fields.map Prod.fst ∧
      ∀ name, Option.Rel RereadAs (Entries.get? fields name) (Entries.get? gs name) := by
  induction fields generalizing gs with
  | nil =>
      obtain rfl : gs = [] := reread
      exact ⟨rfl, fun _ => .none⟩
  | cons f fields ih =>
      obtain ⟨k, later, first, rest, rfl⟩ := reread
      obtain ⟨names, values⟩ := ih rest
      refine ⟨by simp only [List.map_cons, names], fun name => ?_⟩
      rw [Entries.get?_cons, Entries.get?_cons]
      split
      · exact .some first
      · exact values name

/-- An object with distinct names is read as an object, the values at its names as values. -/
theorem read_print_object {fields : Entries Json} (distinct : (fields.map Prod.fst).Nodup)
    (fits : (Json.object fields).NumbersFit) {nesting : Nat}
    (deep : (Json.object fields).depth ≤ nesting) :
    ∃ entries, Json.read nesting (Json.object fields).print = .ok (.object entries) ∧
      ∀ name, Option.Rel RereadAs (Entries.get? fields name) (Entries.get? entries name) := by
  obtain ⟨k, ⟨gs, reread, rfl⟩, read⟩ := read_print fits deep
  obtain ⟨names, values⟩ := rel_get?_of_fieldsAs reread
  refine ⟨_, read, fun name => ?_⟩
  have found : Entries.get? (NameMap.ofList gs).entries name = Entries.get? gs name :=
    NameMap.get?_ofList (names ▸ distinct) name
  rw [found]
  exact values name

end ConsoleView.Json
