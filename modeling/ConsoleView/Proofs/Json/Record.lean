/-
# ConsoleView.Proofs.Json.Record -- what a record reads from an object

An object's entries ascend, so a record whose fields have one name each is read
field by field, in the order of the names (`read_object`): a field that is bound
is put in, a field that is not is passed over, and entries of other names do not
matter.  So what a record has written is read field by field from what each of
them has written (`read_write`).
-/
import ConsoleView.Json.Record
import Mathlib.Data.List.Find
import Mathlib.Data.List.Nodup
import Mathlib.Data.List.Sort
import Mathlib.Data.String.Basic

namespace ConsoleView.Json

set_option autoImplicit false

/-! ## Results -/

section Results

variable {ε α β : Type} {x : Except ε α} {b : β}

/-- If two steps succeed, the first has, and the second after it. -/
theorem ok_of_bind {f : α → Except ε β} (done : x >>= f = .ok b) :
    ∃ a, x = .ok a ∧ f a = .ok b := by
  cases x with
  | error e => cases done
  | ok a => exact ⟨a, rfl, done⟩

theorem ok_of_map {f : α → β} (done : x.map f = .ok b) : ∃ a, x = .ok a ∧ f a = b := by
  cases x with
  | error e => cases done
  | ok a => exact ⟨a, rfl, Except.ok.inj done⟩

end Results

variable {ρ : Type}

/-! ## One field -/

/-- Read into a record what an object binds to the name of a field, if it binds it. -/
def Field.putBound (entries : Entries Json) (r : ρ) (f : Field ρ) : Except Mismatch ρ :=
  match Entries.get? entries f.name with
  | none => .ok r
  | some j => f.put j r

def Field.isBound (entries : Entries Json) (f : Field ρ) : Bool :=
  (Entries.get? entries f.name).isSome

def Codec.readOr {α : Type} (codec : Codec α) (default : α) : Option Json → Except Mismatch α
  | none => .ok default
  | some j => codec.read j

theorem Codec.readOr_option {α : Type} (codec : Codec α) (j : Option Json) :
    (Codec.option codec).readOr none j = (Codec.option codec).read (j.getD .null) := by
  cases j <;> rfl

section Fields

variable {α : Type} {name : String} {codec : Codec α} {get : ρ → α} {set : ρ → α → ρ}

@[simp] theorem Field.name_of : (Field.of name codec get set).name = name := rfl

@[simp] theorem Field.name_needed (f : Field ρ) : f.needed.name = f.name := rfl

@[simp] theorem Field.put_needed (f : Field ρ) : f.needed.put = f.put := rfl

@[simp] theorem Field.write_needed (f : Field ρ) : f.needed.write = f.write := rfl

/-- A field that is not bound keeps its value. -/
theorem putBound_of {entries : Entries Json} {r : ρ} (same : set r (get r) = r) :
    Field.putBound entries r (Field.of name codec get set) =
      (codec.readOr (get r) (Entries.get? entries name)).map (set r) := by
  show (match Entries.get? entries name with
    | none => Except.ok r
    | some j => codec.read j >>= fun a => .ok (set r a)) = _
  cases Entries.get? entries name with
  | none => exact congrArg Except.ok same.symm
  | some j => rfl

/-- What a field puts in is what its codec has read. -/
theorem Field.read_of_put {j : Json} {r next : ρ}
    (done : (Field.of name codec get set).put j r = .ok next) :
    ∃ a, codec.read j = .ok a ∧ set r a = next := by
  obtain ⟨a, read, same⟩ := ok_of_bind done
  exact ⟨a, read, Except.ok.inj same⟩

end Fields

section Bound

variable {entries others : Entries Json} {fields : List (Field ρ)}

/-- Steps that are the same on each field are the same on all of them. -/
theorem foldlM_congr_fields {step other : ρ → Field ρ → Except Mismatch ρ}
    (same : ∀ f ∈ fields, ∀ r, step r f = other r f) (r : ρ) :
    fields.foldlM step r = fields.foldlM other r := by
  induction fields generalizing r with
  | nil => rfl
  | cons f rest ih =>
      rw [List.foldlM_cons, List.foldlM_cons, same f List.mem_cons_self]
      exact congrArg _ (funext fun r => ih (fun f later => same f (List.mem_cons_of_mem _ later)) r)

theorem foldlM_putBound_congr
    (same : ∀ f ∈ fields, Entries.get? entries f.name = Entries.get? others f.name) (r : ρ) :
    fields.foldlM (Field.putBound entries) r = fields.foldlM (Field.putBound others) r :=
  foldlM_congr_fields (fun f member r => by rw [Field.putBound, Field.putBound, same f member]) r

theorem foldlM_putBound_of_unbound
    (unbound : ∀ f ∈ fields, Entries.get? entries f.name = none) (r : ρ) :
    fields.foldlM (Field.putBound entries) r = .ok r := by
  induction fields with
  | nil => rfl
  | cons f rest ih =>
      have first : Field.putBound entries r f = .ok r := by
        rw [Field.putBound, unbound f List.mem_cons_self]
      rw [List.foldlM_cons, first]
      exact ih fun f later => unbound f (List.mem_cons_of_mem _ later)

theorem filter_isBound_congr
    (same : ∀ f ∈ fields, Entries.get? entries f.name = Entries.get? others f.name) :
    fields.filter (Field.isBound entries) = fields.filter (Field.isBound others) :=
  List.filter_congr fun f member => by rw [Field.isBound, Field.isBound, same f member]

theorem filter_isBound_of_unbound (unbound : ∀ f ∈ fields, Entries.get? entries f.name = none) :
    fields.filter (Field.isBound entries) = [] :=
  List.filter_eq_nil_iff.2 fun f member => by simp [Field.isBound, unbound f member]

/-- The first entry of an object is for the first of the ascending fields that the object binds. -/
theorem put_first {before after : List (Field ρ)} {f : Field ρ} {j : Json} {rest : Entries Json}
    (fieldsAscend : ((before ++ f :: after).map Field.name).Pairwise (· < ·))
    (entriesAscend : Entries.Ascending ((f.name, j) :: rest)) :
    (∀ r, (before ++ f :: after).foldlM (Field.putBound ((f.name, j) :: rest)) r =
      (f.put j r).bind fun r => (before ++ f :: after).foldlM (Field.putBound rest) r) ∧
    (before ++ f :: after).filter (Field.isBound ((f.name, j) :: rest)) =
      f :: (before ++ f :: after).filter (Field.isBound rest) := by
  obtain ⟨above, -⟩ := Entries.ascending_cons.1 entriesAscend
  obtain ⟨-, late, less⟩ := List.pairwise_append.1 (List.map_append ▸ fieldsAscend)
  have earlier : ∀ g ∈ before, g.name < f.name := fun g member =>
    less _ (List.mem_map_of_mem member) _ (by simp)
  have later : ∀ g ∈ after, f.name < g.name := fun g member =>
    (List.pairwise_cons.1 late).1 _ (List.mem_map_of_mem member)
  have unboundSelf : Entries.get? rest f.name = none := Entries.get?_eq_none_of_lt above
  have unboundRest : ∀ g ∈ before, Entries.get? rest g.name = none := fun g member =>
    Entries.get?_eq_none_of_lt fun e left => String.lt_trans (earlier g member) (above e left)
  have unbound : ∀ g ∈ before, Entries.get? ((f.name, j) :: rest) g.name = none :=
    fun g member => by
      rw [Entries.get?_cons, if_neg (String.ne_of_lt (earlier g member)), unboundRest g member]
  have bound : Entries.get? ((f.name, j) :: rest) f.name = some j := by
    rw [Entries.get?_cons, if_pos rfl]
  have same : ∀ g ∈ after, Entries.get? ((f.name, j) :: rest) g.name = Entries.get? rest g.name :=
    fun g member => by
      rw [Entries.get?_cons, if_neg (String.ne_of_lt (later g member)).symm]
  constructor
  · intro r
    have first : Field.putBound ((f.name, j) :: rest) r f = f.put j r := by
      rw [Field.putBound, bound]
    have skipped : ∀ r, (before ++ f :: after).foldlM (Field.putBound rest) r =
        after.foldlM (Field.putBound rest) r := fun r => by
      have self : Field.putBound rest r f = .ok r := by rw [Field.putBound, unboundSelf]
      rw [List.foldlM_append, foldlM_putBound_of_unbound unboundRest]
      show (f :: after).foldlM (Field.putBound rest) r = _
      rw [List.foldlM_cons, self]
      rfl
    rw [List.foldlM_append, foldlM_putBound_of_unbound unbound]
    show (f :: after).foldlM (Field.putBound ((f.name, j) :: rest)) r = _
    rw [List.foldlM_cons, first]
    exact congrArg _ (funext fun r => (foldlM_putBound_congr same r).trans (skipped r).symm)
  · have self : Field.isBound ((f.name, j) :: rest) f = true ∧ Field.isBound rest f = false := by
      simp [Field.isBound, bound, unboundSelf]
    simp only [List.filter_append, List.filter_cons, filter_isBound_of_unbound unbound,
      filter_isBound_of_unbound unboundRest, self, filter_isBound_congr same, if_true,
      Bool.false_eq_true, if_false, List.nil_append]

end Bound

/-! ## All fields -/

namespace RecordShape

/-- Each field has one name only, and no two fields have the same. -/
structure Plain (shape : RecordShape ρ) : Prop where
  distinct : (shape.fields.map Field.name).Nodup
  single : ∀ f ∈ shape.fields, f.alternative = none

def byName (shape : RecordShape ρ) : List (Field ρ) :=
  shape.fields.insertionSort fun f g => f.name ≤ g.name

/-- The first required field whose name is not bound. -/
def missing? (shape : RecordShape ρ) (entries : Entries Json) : Option (Field ρ) :=
  shape.fields.find? fun f => f.required && !f.isBound entries

variable {shape : RecordShape ρ} {entries : Entries Json}

/-- What has been read from an object has been put together from its entries. -/
theorem put_of_read_object {r : ρ} (read : shape.read (.object entries) = .ok r) :
    ∃ names, putEntries shape.fields entries [] shape.blank = .ok (r, names) := by
  rw [RecordShape.read] at read
  split at read
  · cases read
  · rename_i put
    split at read
    · cases read
    · obtain rfl := Except.ok.inj read
      exact ⟨_, put⟩

theorem mem_byName {f : Field ρ} : f ∈ shape.byName ↔ f ∈ shape.fields :=
  List.mem_insertionSort _

namespace Plain

theorem ascending_byName (plain : shape.Plain) :
    (shape.byName.map Field.name).Pairwise (· < ·) := by
  let below : Field ρ → Field ρ → Prop := fun f g => f.name ≤ g.name
  have total : Std.Total below := ⟨fun f g => le_total f.name g.name⟩
  have transitive : IsTrans (Field ρ) below := ⟨fun _ _ _ first second => le_trans first second⟩
  have sorted : shape.byName.Pairwise below := List.pairwise_insertionSort below shape.fields
  have distinct : (shape.byName.map Field.name).Nodup :=
    ((List.perm_insertionSort _ shape.fields).map Field.name).nodup_iff.2 plain.distinct
  exact (List.pairwise_map.2 sorted).imp₂ (fun _ _ le ne => lt_of_le_of_ne le ne) distinct

theorem hasName_iff (plain : shape.Plain) {f : Field ρ} (member : f ∈ shape.fields)
    {name : String} : f.hasName name = true ↔ f.name = name := by
  simp [Field.hasName, plain.single f member]

theorem eq_of_name (plain : shape.Plain) {f g : Field ρ} (first : f ∈ shape.fields)
    (second : g ∈ shape.fields) (same : f.name = g.name) : f = g :=
  List.inj_on_of_nodup_map plain.distinct first second same

theorem find?_name (plain : shape.Plain) {f : Field ρ} (member : f ∈ shape.fields) :
    shape.fields.find? (·.hasName f.name) = some f := by
  have named : f.hasName f.name = true := (plain.hasName_iff member).2 rfl
  have found_one : (shape.fields.find? (·.hasName f.name)).isSome :=
    List.find?_isSome.2 ⟨f, member, named⟩
  obtain ⟨g, found⟩ := Option.isSome_iff_exists.1 found_one
  have listed : g ∈ shape.fields := List.mem_of_find?_eq_some found
  have same : g.name = f.name := (plain.hasName_iff listed).1 (by simpa using List.find?_some found)
  rw [found, plain.eq_of_name listed member same]

theorem find?_foreign (plain : shape.Plain) {name : String}
    (foreign : ∀ f ∈ shape.fields, f.name ≠ name) :
    shape.fields.find? (·.hasName name) = none := by
  rw [List.find?_eq_none]
  intro f member
  rw [plain.hasName_iff member]
  exact foreign f member

/-- What an object binds is put in field by field, in the order of the names. -/
theorem putEntries_eq (plain : shape.Plain) (ascending : entries.Ascending) {seen : List String}
    (fresh : ∀ e ∈ entries, e.1 ∉ seen) (r : ρ) :
    putEntries shape.fields entries seen r =
      (shape.byName.foldlM (Field.putBound entries) r).map fun r =>
        (r, ((shape.byName.filter (Field.isBound entries)).map Field.name).reverse ++ seen) := by
  induction entries generalizing seen r with
  | nil =>
      have unbound : ∀ f ∈ shape.byName, Entries.get? ([] : Entries Json) f.name = none :=
        fun _ _ => rfl
      rw [foldlM_putBound_of_unbound unbound, filter_isBound_of_unbound unbound]
      rfl
  | cons e rest ih =>
      obtain ⟨name, j⟩ := e
      obtain ⟨above, ascendingRest⟩ := Entries.ascending_cons.1 ascending
      have freshRest : ∀ e ∈ rest, e.1 ∉ seen := fun e left =>
        fresh e (List.mem_cons_of_mem _ left)
      by_cases known : ∃ f ∈ shape.fields, f.name = name
      · obtain ⟨f, member, rfl⟩ := known
        have unseen : seen.contains f.name = false := by
          simpa using fresh (f.name, j) List.mem_cons_self
        have freshSeen : ∀ e ∈ rest, e.1 ∉ f.name :: seen := fun e left => by
          have ne : e.1 ≠ f.name := (String.ne_of_lt (above e left)).symm
          simpa [ne] using freshRest e left
        obtain ⟨before, after, order⟩ := List.append_of_mem (mem_byName.2 member)
        obtain ⟨put, bound⟩ := put_first (order ▸ plain.ascending_byName) ascending
        rw [← order] at put bound
        rw [putEntries, plain.find?_name member, put, bound]
        simp only [unseen, Bool.false_eq_true, if_false]
        cases f.put j r with
        | error mismatch => rfl
        | ok r =>
            simp only [ih ascendingRest freshSeen, Except.bind, List.map_cons, List.reverse_cons,
              List.append_assoc, List.singleton_append]
      · have foreign : ∀ f ∈ shape.fields, f.name ≠ name := fun f member same =>
          known ⟨f, member, same⟩
        have same : ∀ f ∈ shape.byName, Entries.get? ((name, j) :: rest) f.name =
            Entries.get? rest f.name := fun f member => by
          rw [Entries.get?_cons, if_neg (foreign f (mem_byName.1 member))]
        rw [putEntries, plain.find?_foreign foreign, ih ascendingRest freshRest,
          foldlM_putBound_congr same, filter_isBound_congr same]

theorem contains_names (plain : shape.Plain) {f : Field ρ} (member : f ∈ shape.fields)
    (bound : Field ρ → Bool) :
    (((shape.byName.filter bound).map Field.name).reverse ++ []).contains f.name = bound f := by
  rw [List.append_nil, List.contains_reverse, Bool.eq_iff_iff, List.contains_iff_mem, List.mem_map]
  constructor
  · rintro ⟨g, there, same⟩
    obtain ⟨listed, boundThere⟩ := List.mem_filter.1 there
    rwa [← plain.eq_of_name (mem_byName.1 listed) member same]
  · exact fun boundThere => ⟨f, List.mem_filter.2 ⟨mem_byName.2 member, boundThere⟩, rfl⟩

/-- **A record is read from an object field by field**, in the order of the fields' names; then
each required field must have come. -/
theorem read_object (plain : shape.Plain) (ascending : entries.Ascending) :
    shape.read (.object entries) =
      (shape.byName.foldlM (Field.putBound entries) shape.blank).bind fun r =>
        match shape.missing? entries with
        | some f => .error (.missingField f.name)
        | none => .ok r := by
  have fresh : ∀ e ∈ entries, e.1 ∉ ([] : List String) := fun _ _ => List.not_mem_nil
  have absent : (shape.fields.find? fun f => f.required && !(((shape.byName.filter
      (Field.isBound entries)).map Field.name).reverse ++ []).contains f.name) =
      shape.missing? entries :=
    List.find?_congr fun f member => by rw [plain.contains_names member]
  rw [read, plain.putEntries_eq ascending fresh]
  cases shape.byName.foldlM (Field.putBound entries) shape.blank with
  | error mismatch => rfl
  | ok r =>
      cases missing : shape.missing? entries with
      | none => simp only [Except.map, Except.bind, absent, missing]
      | some f => simp only [Except.map, Except.bind, absent, missing]

/-- The required fields of a record that has been read from an object are bound there. -/
theorem isBound_of_read (plain : shape.Plain) (ascending : entries.Ascending) {r : ρ}
    (read : shape.read (.object entries) = .ok r) {f : Field ρ} (member : f ∈ shape.fields)
    (required : f.required = true) : f.isBound entries = true := by
  rw [plain.read_object ascending] at read
  obtain ⟨r, -, read⟩ := ok_of_bind read
  cases missing : shape.missing? entries with
  | some g =>
      rw [missing] at read
      cases read
  | none => simpa [required] using List.find?_eq_none.1 missing f member

/-- What a record has written is found under the name of each field. -/
theorem get?_written (plain : shape.Plain) (r : ρ) {f : Field ρ} (member : f ∈ shape.fields) :
    (NameMap.ofList (shape.fields.map fun f => (f.name, f.write r))).get? f.name =
      some (f.write r) := by
  have names : (shape.fields.map fun f => (f.name, f.write r)).map Prod.fst =
      shape.fields.map Field.name := by simp
  have distinct := names ▸ plain.distinct
  rw [NameMap.get?_ofList distinct]
  exact Entries.get?_of_mem distinct (List.mem_map_of_mem member)

/-- **What a record has written is read field by field** from what each of them has written. -/
theorem read_write (plain : shape.Plain) (r : ρ) :
    shape.read (shape.write r) =
      shape.byName.foldlM (fun blank f => f.put (f.write r) blank) shape.blank := by
  let written := NameMap.ofList (shape.fields.map fun f => (f.name, f.write r))
  have missing : shape.missing? written.entries = none := by
    apply List.find?_eq_none.2
    intro f member
    have bound : Entries.get? written.entries f.name = some (f.write r) :=
      plain.get?_written r member
    simp [Field.isBound, bound]
  have put : ∀ f ∈ shape.byName, ∀ blank,
      Field.putBound written.entries blank f = f.put (f.write r) blank := fun f member blank => by
    have bound : Entries.get? written.entries f.name = some (f.write r) :=
      plain.get?_written r (mem_byName.1 member)
    rw [Field.putBound, bound]
  show shape.read (.object written.entries) = _
  rw [plain.read_object written.ascending, missing, foldlM_congr_fields put]
  cases shape.byName.foldlM (fun blank f => f.put (f.write r) blank) shape.blank <;> rfl

end Plain

end RecordShape

end ConsoleView.Json
