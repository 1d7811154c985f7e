/-
# ConsoleView.Proofs.InstanceSummary.Inputs -- two readers of one set of inputs

A component reads its inputs from a scope: the instances must be a list, the
size may be anything, and statistics may be missing.  The record of the inputs
is read strictly: all three must be there, and each must be of its type.
`Fault` is what the lenient reader finds wrong, in the order in which it looks,
and it fails on nothing else (`ofScope_eq_error_iff`).  The strict reader asks
for more and reads the same (`ofScope_of_read`), and the scope of some inputs is
read strictly (`read_scope`), so both readers give them back.
-/
import ConsoleView.Proofs.Preview.Inputs
import ConsoleView.Proofs.Records.RoundTrip

namespace ConsoleView

set_option autoImplicit false

open Json

namespace InstanceInputs

variable {scope : Scope}

/-! ## The lenient reader -/

/-- A scope binds no instances, or something else under their name, or a list. -/
theorem instances_cases (scope : Scope) :
    scope.get? "instances" = none ∨
      (∃ j, scope.get? "instances" = some j ∧ ∀ items, j ≠ .array items) ∨
      ∃ items, scope.get? "instances" = some (.array items) := by
  cases bound : scope.get? "instances" with
  | none => exact .inl rfl
  | some j =>
      cases j with
      | array items => exact .inr (.inr ⟨items, rfl⟩)
      | _ => exact .inr (.inl ⟨_, rfl, nofun⟩)

/-- Of the inputs only the instances can be missing. -/
theorem missingInputs_eq (scope : Scope) :
    Component.instanceSummary.descriptor.missingInputs scope =
      if scope.contains "instances" then [] else ["instances"] := by
  show (Component.instanceSummary.inputs.filter _).map Input.name = _
  cases bound : scope.contains "instances" <;>
    simp [Component.inputs, Component.required, Component.optional, bound]

/-- Without instances the scope is not looked into further. -/
theorem ofScope_unbound (unbound : scope.get? "instances" = none) :
    ofScope scope = .error (.missingInput "instanceSummary" "instances") := by
  have absent : scope.contains "instances" = false := congrArg Option.isSome unbound
  rw [ofScope, missingInputs_eq, absent]
  rfl

theorem ofScope_other {j : Json} (bound : scope.get? "instances" = some j)
    (other : ∀ items, j ≠ .array items) :
    ofScope scope =
      .error (.malformedInput "instanceSummary" "instances must be an ordered list") := by
  have present : scope.contains "instances" = true := congrArg Option.isSome bound
  rw [ofScope, missingInputs_eq, present, bound]
  cases j with
  | array items => exact absurd rfl (other items)
  | _ => rfl

/-- Statistics are read before the instances. -/
theorem ofScope_list {items : List Json} (listed : scope.get? "instances" = some (.array items)) :
    ofScope scope = (do
      let stats ← statsFrom scope
      let instances ← (Codec.list InstanceRecord.codec).decode (.array items)
      return { instances, size := sizeToken (scope.get? "size"), stats }) := by
  have present : scope.contains "instances" = true := congrArg Option.isSome listed
  rw [ofScope, missingInputs_eq, present, listed]
  simp only [if_true, Option.getD_some]
  cases statsFrom scope with
  | error e => rfl
  | ok stats => cases (Codec.list InstanceRecord.codec).decode (.array items) <;> rfl

/-- The statistics of a scope can be read: none are bound, or `null` is, or what their codec
reads. -/
def StatsReadable (scope : Scope) : Prop :=
  scope.get? "stats" = none ∨ scope.get? "stats" = some .null ∨
    ∃ j stats, scope.get? "stats" = some j ∧ InstanceStats.codec.read j = .ok stats

theorem statsFrom_error_iff {e : ViewError} :
    statsFrom scope = .error e ↔ ∃ j m, scope.get? "stats" = some j ∧ j ≠ .null ∧
      InstanceStats.codec.read j = .error m ∧ e = .json m := by
  rw [statsFrom_eq, inputOr_eq, Scope.orNull]
  cases scope.get? "stats" with
  | none =>
      constructor
      · intro failed
        cases failed
      · rintro ⟨j, m, given, -⟩
        cases given
  | some j =>
      cases j with
      | null =>
          constructor
          · intro failed
            cases failed
          · rintro ⟨j, m, same, present, -⟩
            exact absurd (Option.some.inj same).symm present
      | _ => simp [Json.isNull, Codec.decode_eq_error]

theorem statsFrom_ok_iff : (∃ stats, statsFrom scope = .ok stats) ↔ StatsReadable scope := by
  rw [statsFrom_eq, inputOr_eq, Scope.orNull, StatsReadable]
  cases scope.get? "stats" with
  | none => exact ⟨fun _ => .inl rfl, fun _ => ⟨{}, rfl⟩⟩
  | some j =>
      cases j with
      | null => exact ⟨fun _ => .inr (.inl rfl), fun _ => ⟨{}, rfl⟩⟩
      | _ => simp [Json.isNull, Codec.decode_eq_ok]

/-- What is wrong with a scope, in the order in which it is looked for. -/
inductive Fault (scope : Scope) : ViewError → Prop where
  | missing (unbound : scope.get? "instances" = none) :
      Fault scope (.missingInput "instanceSummary" "instances")
  | malformed {j : Json} (bound : scope.get? "instances" = some j)
      (other : ∀ items, j ≠ .array items) :
      Fault scope (.malformedInput "instanceSummary" "instances must be an ordered list")
  | stats {items : List Json} {j : Json} {m : Mismatch}
      (listed : scope.get? "instances" = some (.array items))
      (given : scope.get? "stats" = some j) (present : j ≠ .null)
      (unread : InstanceStats.codec.read j = .error m) : Fault scope (.json m)
  /-- The first of the instances that cannot be read. -/
  | instances {before after : List Json} {j : Json} {m : Mismatch}
      (listed : scope.get? "instances" = some (.array (before ++ j :: after)))
      (readable : StatsReadable scope)
      (earlier : ∀ k ∈ before, ∃ r, InstanceRecord.codec.read k = .ok r)
      (unread : InstanceRecord.codec.read j = .error m) : Fault scope (.json m)

theorem ofScope_eq_error_iff {e : ViewError} : ofScope scope = .error e ↔ Fault scope e := by
  constructor
  · intro failed
    rcases instances_cases scope with unbound | ⟨j, bound, other⟩ | ⟨items, listed⟩
    · obtain rfl := Except.error.inj ((ofScope_unbound unbound).symm.trans failed)
      exact .missing unbound
    · obtain rfl := Except.error.inj ((ofScope_other bound other).symm.trans failed)
      exact .malformed bound other
    · rw [ofScope_list listed] at failed
      cases stats : statsFrom scope with
      | error e' =>
          rw [stats] at failed
          obtain rfl : e' = e := Except.error.inj failed
          obtain ⟨j, m, given, present, unread, rfl⟩ := statsFrom_error_iff.1 stats
          exact .stats listed given present unread
      | ok read =>
          rw [stats] at failed
          cases decoded : (Codec.list InstanceRecord.codec).decode (.array items) with
          | ok instances =>
              rw [decoded] at failed
              cases failed
          | error e' =>
              rw [decoded] at failed
              obtain rfl : e' = e := Except.error.inj failed
              obtain ⟨m, unread, rfl⟩ := Codec.decode_eq_error.1 decoded
              obtain ⟨before, j, after, rfl, earlier, unread⟩ := Codec.read_list_error_iff.1 unread
              exact .instances listed (statsFrom_ok_iff.1 ⟨read, stats⟩) earlier unread
  · intro fault
    cases fault with
    | missing unbound => exact ofScope_unbound unbound
    | malformed bound other => exact ofScope_other bound other
    | stats listed given present unread =>
        rw [ofScope_list listed, statsFrom_error_iff.2 ⟨_, _, given, present, unread, rfl⟩]
        rfl
    | @instances before after j m listed readable earlier unread =>
        obtain ⟨stats, read⟩ := statsFrom_ok_iff.2 readable
        have failed := Codec.read_list_error_iff.2 ⟨before, j, after, rfl, earlier, unread⟩
        rw [ofScope_list listed, read, Codec.decode_eq_error.2 ⟨m, failed, rfl⟩]
        rfl

/-- What is read of the inputs, if they are read. -/
theorem ofScope_eq_ok_iff {i : InstanceInputs} :
    ofScope scope = .ok i ↔ ∃ items, scope.get? "instances" = some (.array items) ∧
      (Codec.list InstanceRecord.codec).read (.array items) = .ok i.instances ∧
      i.size = sizeToken (scope.get? "size") ∧ statsFrom scope = .ok i.stats := by
  constructor
  · intro read
    rcases instances_cases scope with unbound | ⟨j, bound, other⟩ | ⟨items, listed⟩
    · cases (ofScope_unbound unbound).symm.trans read
    · cases (ofScope_other bound other).symm.trans read
    · rw [ofScope_list listed] at read
      obtain ⟨stats, statsRead, read⟩ := ok_of_bind read
      obtain ⟨instances, decoded, read⟩ := ok_of_bind read
      obtain rfl := Except.ok.inj read
      exact ⟨items, listed, Codec.decode_eq_ok.1 decoded, rfl, statsRead⟩
  · rintro ⟨items, listed, read, size, stats⟩
    rw [ofScope_list listed, stats, Codec.decode_eq_ok.2 read]
    exact congrArg (fun size => Except.ok { i with size }) size.symm

/-! ## The strict reader -/

theorem plain_instanceInputs : shape.Plain where
  distinct := by decide
  single := by simp [shape, Field.of, Field.needed]

/-- Where all three inputs are bound they are read in the order of their names. -/
theorem read_bound {instances size stats : Json}
    (listed : scope.get? "instances" = some instances) (sized : scope.get? "size" = some size)
    (given : scope.get? "stats" = some stats) :
    codec.read scope.toJson = (do
      let instances ← (Codec.list InstanceRecord.codec).read instances
      let size ← Codec.string.read size
      let stats ← InstanceStats.codec.read stats
      return { instances, size, stats }) := by
  have order : shape.byName = [
      (Field.of "instances" (.list InstanceRecord.codec) InstanceInputs.instances
        fun i instances => { i with instances }).needed,
      (Field.of "size" Codec.string InstanceInputs.size fun i size => { i with size }).needed,
      (Field.of "stats" InstanceStats.codec InstanceInputs.stats
        fun i stats => { i with stats }).needed] := by
    simp [RecordShape.byName, shape, List.insertionSort]
  have listed : Entries.get? scope.values.entries "instances" = some instances := listed
  have sized : Entries.get? scope.values.entries "size" = some size := sized
  have given : Entries.get? scope.values.entries "stats" = some stats := given
  have complete : shape.missing? scope.values.entries = none := by
    simp [RecordShape.missing?, shape, Field.isBound, listed, sized, given]
  show shape.read (.object scope.values.entries) = _
  rw [plain_instanceInputs.read_object scope.values.ascending, order, complete]
  simp only [List.foldlM_cons, List.foldlM_nil, Field.putBound, Field.name_needed, Field.name_of,
    Field.put_needed, listed, sized, given]
  cases first : (Codec.list InstanceRecord.codec).read instances with
  | error m => simp [Field.of, first, bind, Except.bind]
  | ok read =>
      cases second : Codec.string.read size with
      | error m => simp [Field.of, first, second, bind, Except.bind, pure, Except.pure]
      | ok token =>
          cases third : InstanceStats.codec.read stats <;>
            simp [Field.of, first, second, third, bind, Except.bind, pure, Except.pure]

/-- What is read strictly is there, all of it, and each input is of its type. -/
theorem bound_of_read {i : InstanceInputs} (read : codec.read scope.toJson = .ok i) :
    ∃ instances stats, scope.get? "instances" = some instances ∧
      scope.get? "size" = some (.string i.size) ∧ scope.get? "stats" = some stats ∧
      (Codec.list InstanceRecord.codec).read instances = .ok i.instances ∧
      InstanceStats.codec.read stats = .ok i.stats := by
  have required : ∀ f ∈ shape.fields, f.required = true := by simp [shape, Field.needed]
  have bound : ∀ name ∈ ["instances", "size", "stats"], ∃ j, scope.get? name = some j := by
    intro name member
    obtain ⟨f, listed, rfl⟩ : ∃ f ∈ shape.fields, f.name = name := List.mem_map.1 member
    exact Option.isSome_iff_exists.1 (plain_instanceInputs.isBound_of_read scope.values.ascending
      read listed (required f listed))
  obtain ⟨instances, listed⟩ := bound "instances" (by decide)
  obtain ⟨size, sized⟩ := bound "size" (by decide)
  obtain ⟨stats, given⟩ := bound "stats" (by decide)
  rw [read_bound listed sized given] at read
  obtain ⟨records, listRead, read⟩ := ok_of_bind read
  obtain ⟨token, sizeRead, read⟩ := ok_of_bind read
  obtain ⟨progress, statsRead, read⟩ := ok_of_bind read
  obtain rfl := Except.ok.inj read
  refine ⟨instances, stats, listed, ?_, given, listRead, statsRead⟩
  cases size with
  | string text =>
      obtain rfl := Except.ok.inj sizeRead
      exact sized
  | _ => cases sizeRead

/-- **The lenient reader reads what the strict one reads.** -/
theorem ofScope_of_read {i : InstanceInputs} (read : codec.read scope.toJson = .ok i) :
    ofScope scope = .ok i := by
  obtain ⟨instances, stats, listed, sized, given, listRead, statsRead⟩ := bound_of_read read
  have list : ∃ items, instances = .array items := by
    cases instances with
    | array items => exact ⟨items, rfl⟩
    | _ => cases listRead
  obtain ⟨items, rfl⟩ := list
  have progress : statsFrom scope = .ok i.stats := by
    rw [statsFrom, given]
    cases stats with
    | null => cases statsRead
    | _ => exact Codec.decode_eq_ok.2 statsRead
  exact ofScope_eq_ok_iff.2 ⟨items, listed, listRead, by rw [sized]; rfl, progress⟩

/-- The scope of some inputs is read strictly, and gives them back. -/
theorem read_scope {i : InstanceInputs} (finite : i.stats.progress.isFinite = true) :
    codec.read i.scope.toJson = .ok i := by
  have listed : i.scope.get? "instances" =
      some ((Codec.list InstanceRecord.codec).write i.instances) := by
    simp [scope, Scope.bind, Scope.get?_insert]
  have sized : i.scope.get? "size" = some (.string i.size) := by
    simp [scope, Scope.bind, Scope.get?_insert, Codec.string]
  have given : i.scope.get? "stats" = some (InstanceStats.codec.write i.stats) := by
    simp [scope, Scope.bind, Scope.get?_insert]
  rw [read_bound listed sized given, Codec.lawful_list lawful_instanceRecord i.instances]
  show (InstanceStats.codec.read (InstanceStats.codec.write i.stats) >>= fun stats =>
    Except.ok { i with stats }) = _
  rw [roundTrips_stats finite]
  rfl

/-! ## Both readers -/

/-- **Two readers of one set of inputs.**  The lenient one reads a scope whose instances are a list
of readable records and whose statistics are missing, `null` or readable, whatever the size is; what
it finds wrong with any other is the first fault in its order.  What the strict one reads, it reads
to the same inputs.  The scope of inputs with a finite progress is read by both, to these inputs. -/
theorem readers_agree :
    (∀ scope : Scope, (∃ i, ofScope scope = .ok i) ↔
      (∃ items, scope.get? "instances" = some (.array items) ∧
        ∀ j ∈ items, ∃ record, InstanceRecord.codec.read j = .ok record) ∧
      (scope.get? "stats" = none ∨ scope.get? "stats" = some .null ∨
        ∃ j stats, scope.get? "stats" = some j ∧ InstanceStats.codec.read j = .ok stats)) ∧
    (∀ (scope : Scope) (e : ViewError), ofScope scope = .error e ↔ Fault scope e) ∧
    (∀ (scope : Scope) (i : InstanceInputs),
      codec.read scope.toJson = .ok i → ofScope scope = .ok i) ∧
    ∀ i : InstanceInputs, i.stats.progress.isFinite = true →
      ofScope i.scope = .ok i ∧ codec.read i.scope.toJson = .ok i := by
  refine ⟨fun scope => ⟨?_, ?_⟩, fun scope e => ofScope_eq_error_iff, fun scope i =>
    ofScope_of_read, fun i finite => ⟨ofScope_of_read (read_scope finite), read_scope finite⟩⟩
  · rintro ⟨i, read⟩
    obtain ⟨items, listed, listRead, -, statsRead⟩ := ofScope_eq_ok_iff.1 read
    exact ⟨⟨items, listed, Codec.read_list_ok_iff.1 ⟨_, listRead⟩⟩,
      statsFrom_ok_iff.1 ⟨_, statsRead⟩⟩
  · rintro ⟨⟨items, listed, records⟩, readable⟩
    obtain ⟨instances, listRead⟩ := Codec.read_list_ok_iff.2 records
    obtain ⟨stats, statsRead⟩ := statsFrom_ok_iff.2 readable
    exact ⟨{ instances, size := sizeToken (scope.get? "size"), stats },
      ofScope_eq_ok_iff.2 ⟨items, listed, listRead, rfl, statsRead⟩⟩

/-- A class under its second name, statistics as a list and a size that is a number are read
leniently, and with the size as a text both readers read the same.  One record in the place of the
list is not read. -/
theorem class_names_read :
    let record : Json := .object [("className", .string "lost")]
    let listed := (Scope.empty.insert "stats" (.array [.int 1, .int 2])).insert "instances"
      (.array [record])
    let inputs : InstanceInputs :=
      { instances := [⟨"lost"⟩], size := "3", stats := { updated := 1, total := 2 } }
    (∃ i, ofScope (listed.insert "size" (.int 3)) = .ok i) ∧
      ofScope (listed.insert "instances" record) =
        .error (.malformedInput "instanceSummary" "instances must be an ordered list") ∧
      ofScope (listed.insert "size" (.string "3")) = .ok inputs ∧
      ofScope inputs.scope = .ok inputs := by
  intro record listed inputs
  obtain ⟨lenient, faults, strict, written⟩ := readers_agree
  refine ⟨(lenient _).2 ⟨⟨[record], rfl, ?_⟩, .inr (.inr ⟨_, inputs.stats, rfl, rfl⟩)⟩,
    (faults _ _).2 (.malformed rfl nofun), strict _ _ rfl, (written inputs (by decide)).1⟩
  intro j member
  obtain rfl := List.mem_singleton.1 member
  exact ⟨⟨"lost"⟩, rfl⟩

end InstanceInputs

end ConsoleView
