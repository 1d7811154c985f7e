/-
# ConsoleView.Proofs.Json.Partial -- records read from a part of their fields

An object that binds some of a record's fields, and a list that stops after some
of them, are read field by field into the record of defaults.  So both give a
*part* of the record (`Parts.degrades`), provided that each field by itself puts
what it has written into a part and makes it the part with that field.
-/
import ConsoleView.Proofs.Json.Record

namespace ConsoleView.Json

set_option autoImplicit false

variable {ρ : Type} {shape : RecordShape ρ} {r : ρ} {part : (String → Bool) → ρ}

namespace RecordShape

/-- The part of a record with the fields of some names, the others at their defaults, as its
shape sees it: `part kept` for every choice of names. -/
structure Parts (shape : RecordShape ρ) (r : ρ) (part : (String → Bool) → ρ) : Prop where
  plain : shape.Plain
  optional : ∀ f ∈ shape.fields, f.required = false
  blank : ∀ kept : String → Bool, (∀ f ∈ shape.fields, kept f.name = false) →
    part kept = shape.blank
  put : ∀ f ∈ shape.fields, ∀ kept : String → Bool,
    f.put (f.write r) (part kept) = .ok (part fun name => kept name || name == f.name)

/-- A record degrades field by field. -/
structure Degrades (shape : RecordShape ρ) (r : ρ) (part : (String → Bool) → ρ) : Prop where
  /-- An object that binds some of the fields as the record's own object does, and anything else
  under names of no field, is read as the part with these fields. -/
  object : ∀ (kept : String → Bool) (m : NameMap Json),
    (∀ f ∈ shape.fields, m.get? f.name =
      if kept f.name then (shape.write r).field? f.name else none) →
    shape.read (ofMap m) = .ok (part kept)
  /-- The list of the first values is read as the part with the first fields. -/
  array : ∀ k, shape.read (.array ((shape.fields.take k).map fun f => f.write r)) =
    .ok (part ((shape.fields.take k).map Field.name).contains)

namespace Parts

/-- What an object binds to some fields is put into a part one field after another. -/
theorem foldlM_putBound (parts : shape.Parts r part) {entries : Entries Json}
    {kept : String → Bool} {fields : List (Field ρ)} (declared : ∀ f ∈ fields, f ∈ shape.fields)
    (bound : ∀ f ∈ fields, Entries.get? entries f.name =
      if kept f.name then some (f.write r) else none) (done : String → Bool) :
    fields.foldlM (Field.putBound entries) (part done) =
      .ok (part fun name => done name || (kept name && (fields.map Field.name).contains name)) := by
  induction fields generalizing done with
  | nil => simp [pure, Except.pure]
  | cons f rest ih =>
      have later := ih (fun g member => declared g (List.mem_cons_of_mem _ member))
        fun g member => bound g (List.mem_cons_of_mem _ member)
      have here := bound f List.mem_cons_self
      have only : ∀ name, (kept name && name == f.name) = (kept f.name && name == f.name) :=
        fun name => by
          by_cases same : name = f.name
          · rw [same]
          · rw [beq_false_of_ne same, Bool.and_false, Bool.and_false]
      have first : Field.putBound entries (part done) f =
          .ok (part fun name => done name || (kept name && name == f.name)) := by
        simp only [only]
        cases keeps : kept f.name with
        | false =>
            rw [keeps] at here
            simp [Field.putBound, here]
        | true =>
            rw [keeps] at here
            simpa [Field.putBound, here] using parts.put f (declared f List.mem_cons_self) done
      rw [List.foldlM_cons, first]
      refine (later _).trans (congrArg Except.ok (congrArg part (funext fun name => ?_)))
      rw [List.map_cons, List.contains_cons, Bool.and_or_distrib_left, Bool.or_assoc]

/-- The values of the first fields are put into a part by position; the fields after them keep
their defaults. -/
theorem putItems_take (parts : shape.Parts r part) (length : Nat) {fields : List (Field ρ)}
    (declared : ∀ f ∈ fields, f ∈ shape.fields) (k position : Nat) (done : String → Bool) :
    putItems shape length fields ((fields.take k).map fun f => f.write r) position (part done) =
      .ok (part fun name => done name || ((fields.take k).map Field.name).contains name) := by
  induction fields generalizing k position done with
  | nil => simp [putItems]
  | cons f rest ih =>
      have later := ih fun g member => declared g (List.mem_cons_of_mem _ member)
      have member := declared f List.mem_cons_self
      cases k with
      | zero =>
          have free : ¬ f.required = true := by simp [parts.optional f member]
          simpa [putItems, free] using later 0 (position + 1) done
      | succ k =>
          rw [List.take_succ_cons, List.map_cons, putItems, parts.put f member done]
          refine (later k _ _).trans (congrArg Except.ok (congrArg part (funext fun name => ?_)))
          rw [List.map_cons, List.contains_cons, Bool.or_assoc]

/-- **A record whose fields are put in one by one degrades field by field.** -/
theorem degrades (parts : shape.Parts r part) : shape.Degrades r part where
  object kept m bound := by
    have written : ∀ f ∈ shape.fields, (shape.write r).field? f.name = some (f.write r) :=
      fun f member => parts.plain.get?_written r member
    have given : ∀ f ∈ shape.byName, Entries.get? m.entries f.name =
        if kept f.name then some (f.write r) else none := fun f member => by
      have member := mem_byName.1 member
      rw [← written f member]
      exact bound f member
    let foreign := fun name => kept name && !(shape.byName.map Field.name).contains name
    have known : ∀ f ∈ shape.fields, (shape.byName.map Field.name).contains f.name = true :=
      fun f member => List.contains_iff_mem.2 (List.mem_map_of_mem (mem_byName.2 member))
    have start : part foreign = shape.blank := parts.blank foreign fun f member => by
      simp only [foreign, known f member, Bool.not_true, Bool.and_false]
    have optional : shape.missing? m.entries = none :=
      List.find?_eq_none.2 fun f member => by simp [parts.optional f member]
    show shape.read (.object m.entries) = _
    rw [parts.plain.read_object m.ascending, optional, ← start,
      parts.foldlM_putBound (fun f => mem_byName.1) given foreign]
    refine congrArg Except.ok (congrArg part (funext fun name => ?_))
    rw [← Bool.and_or_distrib_left, Bool.not_or_self, Bool.and_true]
  array k := by
    have start := parts.blank (fun _ => false) fun _ _ => rfl
    show putItems shape _ shape.fields _ 0 shape.blank = _
    rw [← start, parts.putItems_take _ (fun _ => id)]
    exact congrArg Except.ok (congrArg part (funext fun name => Bool.false_or _))

end Parts

/-- A record that degrades is read back if its part with all fields is itself. -/
theorem Degrades.roundTrips (degrades : shape.Degrades r part) (whole : part (fun _ => true) = r) :
    shape.codec.RoundTrips r := by
  let written := NameMap.ofList (shape.fields.map fun f => (f.name, f.write r))
  have all := degrades.object (fun _ => true) written fun f _ => rfl
  rwa [whole] at all

end RecordShape

end ConsoleView.Json
