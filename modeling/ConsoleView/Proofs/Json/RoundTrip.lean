/-
# ConsoleView.Proofs.Json.RoundTrip -- what is written is read back

The codecs of scalars are lawful; so are those of lists whose items have lawful
codecs, and a field with a lawful codec puts back what it has written.  Positions
are the exception: a number is written as it is and must fit into sixty-four bits
to be read.  What has been read fits, so what has been read can be written and
read again (`roundTrips_of_read_list`).
-/
import ConsoleView.Proofs.Json.Record
import ConsoleView.Records.Instances
import ConsoleView.Time.Timestamp

namespace ConsoleView

set_option autoImplicit false

open Json

namespace Json

namespace Codec

variable {α : Type} {codec : Codec α}

/-! ## What is not null -/

/-- No value is written as `null`. -/
def Shown (codec : Codec α) : Prop := ∀ a, codec.write a ≠ .null

theorem shown_string : string.Shown := by
  intro s null
  cases null

theorem shown_uint64 : uint64.Shown := by
  intro n null
  cases null

theorem shown_list (codec : Codec α) : (list codec).Shown := by
  intro items null
  cases null

theorem shown_record {ρ : Type} (shape : RecordShape ρ) : shape.codec.Shown := by
  intro r null
  cases null

theorem shown_timestamp : Timestamp.codec.Shown := by
  intro t null
  cases null

/-! ## Lists -/

/-- A list is read back if each of its items is. -/
theorem roundTrips_list {items : List α} (each : ∀ a ∈ items, codec.RoundTrips a) :
    (list codec).RoundTrips items := by
  show (items.map codec.write).mapM codec.read = .ok items
  induction items with
  | nil => rfl
  | cons a rest ih =>
      have first : codec.read (codec.write a) = .ok a := each a List.mem_cons_self
      have later := ih fun b member => each b (List.mem_cons_of_mem _ member)
      rw [List.map_cons, List.mapM_cons, first]
      show ((rest.map codec.write).mapM codec.read >>= fun rest => Except.ok (a :: rest)) = _
      rw [later]
      rfl

theorem lawful_list (lawful : codec.Lawful) : (list codec).Lawful :=
  fun _ => roundTrips_list fun a _ => lawful a

/-- A list is read if each of its items is. -/
theorem read_list_ok_iff {items : List Json} :
    (∃ as, (list codec).read (.array items) = .ok as) ↔
      ∀ j ∈ items, ∃ a, codec.read j = .ok a := by
  show (∃ as, items.mapM codec.read = .ok as) ↔ _
  induction items with
  | nil => exact ⟨nofun, fun _ => ⟨[], rfl⟩⟩
  | cons j rest ih =>
      rw [List.forall_mem_cons, ← ih, List.mapM_cons]
      constructor
      · rintro ⟨as, read⟩
        obtain ⟨a, first, read⟩ := ok_of_bind read
        obtain ⟨others, later, -⟩ := ok_of_bind read
        exact ⟨⟨a, first⟩, others, later⟩
      · rintro ⟨⟨a, first⟩, others, later⟩
        exact ⟨a :: others, by rw [first, later]; rfl⟩

/-- A list that is not read fails with its first item that is not. -/
theorem read_list_error_iff {items : List Json} {m : Mismatch} :
    (list codec).read (.array items) = .error m ↔
      ∃ before j after, items = before ++ j :: after ∧
        (∀ k ∈ before, ∃ a, codec.read k = .ok a) ∧ codec.read j = .error m := by
  show items.mapM codec.read = .error m ↔ _
  induction items with
  | nil =>
      constructor
      · nofun
      · rintro ⟨before, j, after, same, -⟩
        cases before <;> cases same
  | cons j rest ih =>
      rw [List.mapM_cons]
      cases first : codec.read j with
      | error mismatch =>
          constructor
          · intro failed
            obtain rfl : mismatch = m := Except.error.inj failed
            exact ⟨[], j, rest, rfl, nofun, first⟩
          · rintro ⟨_ | ⟨k, before⟩, k', after, same, readable, failed⟩
            · obtain ⟨rfl, rfl⟩ := List.cons.inj same
              exact congrArg Except.error (Except.error.inj (first.symm.trans failed))
            · obtain ⟨rfl, rfl⟩ := List.cons.inj same
              obtain ⟨a, read⟩ := readable j List.mem_cons_self
              cases first.symm.trans read
      | ok a =>
          have later : (Except.ok a >>= fun a => rest.mapM codec.read >>= fun as =>
              Except.ok (a :: as)) = .error m ↔ rest.mapM codec.read = .error m := by
            cases rest.mapM codec.read <;> simp [bind, Except.bind]
          refine later.trans (ih.trans ⟨?_, ?_⟩)
          · rintro ⟨before, k, after, rfl, readable, failed⟩
            exact ⟨j :: before, k, after, rfl, List.forall_mem_cons.2 ⟨⟨a, first⟩, readable⟩, failed⟩
          · rintro ⟨_ | ⟨k, before⟩, k', after, same, readable, failed⟩
            · obtain ⟨rfl, rfl⟩ := List.cons.inj same
              cases first.symm.trans failed
            · obtain ⟨rfl, rfl⟩ := List.cons.inj same
              exact ⟨before, k', after, rfl, (List.forall_mem_cons.1 readable).2, failed⟩

/-- Each item of a list that has been read has been read from something. -/
theorem read_of_mem_mapM {js : List Json} {items : List α} (read : js.mapM codec.read = .ok items)
    {a : α} (member : a ∈ items) : ∃ j, codec.read j = .ok a := by
  induction js generalizing items with
  | nil =>
      cases read
      cases member
  | cons j rest ih =>
      rw [List.mapM_cons] at read
      obtain ⟨b, first, read⟩ := ok_of_bind read
      obtain ⟨others, later, read⟩ := ok_of_bind read
      obtain rfl := Except.ok.inj read
      rcases List.mem_cons.1 member with rfl | member
      · exact ⟨j, first⟩
      · exact ih later member

theorem roundTrips_of_read_list {j : Json} {items : List α} (read : (list codec).read j = .ok items)
    (each : ∀ j a, codec.read j = .ok a → codec.RoundTrips a) {a : α} (member : a ∈ items) :
    codec.RoundTrips a := by
  cases j with
  | array js =>
      obtain ⟨j, given⟩ := read_of_mem_mapM read member
      exact each j a given
  | _ => cases read

/-- A value is read back as an option, unless it is written as `null`. -/
theorem roundTrips_some {a : α} (shown : codec.Shown) (roundTrips : codec.RoundTrips a) :
    (option codec).RoundTrips (some a) := by
  simp only [RoundTrips, option] at roundTrips ⊢
  cases written : codec.write a with
  | null => exact absurd written (shown a)
  | _ =>
      rw [written] at roundTrips
      simp only [roundTrips]
      rfl

/-- An option that has been read and is there has been read as its value. -/
theorem read_of_read_option {j : Json} {a : α} (read : (option codec).read j = .ok (some a)) :
    codec.read j = .ok a := by
  have value : (codec.read j).map some = .ok (some a) := by
    cases j with
    | null => cases read
    | _ => exact read
  obtain ⟨b, found, same⟩ := ok_of_map value
  rw [found, Option.some.inj same]

/-! ## Positions -/

/-- A position that has been read fits into sixty-four bits. -/
theorem roundTrips_of_read_index {j : Json} {n : Nat} (read : index.read j = .ok n) :
    index.RoundTrips n := by
  cases j with
  | int i =>
      by_cases bounds : (0 : Int) ≤ i ∧ i ≤ UInt64.size - 1
      · simp only [index, readInt_int bounds] at read
        obtain rfl : i.toNat = n := Except.ok.inj read
        refine roundTrips_index ?_
        simp only [UInt64.size] at bounds ⊢
        omega
      · simp only [index, readInt, if_neg bounds] at read
        cases read
  | _ => cases read

end Codec

/-! ## Fields -/

section Fields

variable {ρ α : Type} {name : String} {codec : Codec α} {get : ρ → α} {set : ρ → α → ρ}

/-- A field whose value is read back is put back. -/
theorem Field.put_write_of_roundTrips {r : ρ} (roundTrips : codec.RoundTrips (get r)) (blank : ρ) :
    (Field.of name codec get set).put ((Field.of name codec get set).write r) blank =
      .ok (set blank (get r)) := by
  show (codec.read (codec.write (get r)) >>= fun a => Except.ok (set blank a)) = _
  rw [roundTrips]
  rfl

/-- What a field has written is put back. -/
@[simp] theorem Field.put_write_of (lawful : codec.Lawful) (r blank : ρ) :
    (Field.of name codec get set).put ((Field.of name codec get set).write r) blank =
      .ok (set blank (get r)) :=
  Field.put_write_of_roundTrips (lawful (get r)) blank

end Fields

/-- A record is read back if its fields put together what they have written. -/
theorem RecordShape.Plain.roundTrips {ρ : Type} {shape : RecordShape ρ} (plain : shape.Plain)
    {r : ρ} (restored : (shape.byName.foldlM (fun blank f => f.put (f.write r) blank)
      shape.blank) = .ok r) : shape.codec.RoundTrips r :=
  (plain.read_write r).trans restored

end Json

/-! ## Ranges and timestamps -/

theorem plain_instanceRange : InstanceRange.shape.Plain where
  distinct := by decide
  single := by simp [InstanceRange.shape, Field.of, Field.needed]

theorem lawful_instanceRange : InstanceRange.codec.Lawful := by
  intro range
  have number := Codec.lawful_uint32
  refine plain_instanceRange.roundTrips ?_
  simp [RecordShape.byName, InstanceRange.shape, List.insertionSort, bind, Except.bind, pure,
    Except.pure, number]

theorem lawful_timestamp : Timestamp.codec.Lawful := by
  intro t
  show (Codec.int64.read (Codec.int64.write t.millis) >>= fun millis =>
    Except.ok (Timestamp.mk millis)) = _
  rw [Codec.lawful_int64 t.millis]
  rfl

end ConsoleView
