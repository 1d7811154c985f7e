/-
# ConsoleView.Proofs.Records.RoundTrip -- records are read back as they were written

A record that comes with all its fields is its own whole part, so it is read
back.  Statistics are read back if their progress is finite, as it is whenever
they have been read from JSON (`finite_of_read_stats`).  The configuration of a
group is not looked into: it is the value that was given, or `null` if none was
(`config_of_read`).  `records_restored` is all of it.
-/
import ConsoleView.Proofs.Records.Partial

namespace ConsoleView

set_option autoImplicit false

open Json

/-! ## Codecs -/

namespace Json

variable {α : Type} {codec : Codec α}

/-- What a codec writes, it reads back; and what it has read from any JSON value, it writes and
reads back. -/
structure Codec.Restores (codec : Codec α) : Prop where
  written : codec.Lawful
  read : ∀ j a, codec.read j = .ok a → codec.RoundTrips a

theorem Codec.Lawful.restores (lawful : codec.Lawful) : codec.Restores where
  written := lawful
  read _ a _ := lawful a

namespace RecordShape

variable {ρ : Type} {shape : RecordShape ρ} {field : String} {value : ρ → Json}

/-- The value that is given for a field: under its name in an object, at its place in a list. -/
def given? (shape : RecordShape ρ) (field : String) : Json → Option Json
  | .object entries => Entries.get? entries field
  | .array items => Entries.get? ((shape.fields.map Field.name).zip items) field
  | _ => none

theorem Plain.putEntries_value (plain : shape.Plain) (known : field ∈ shape.fields.map Field.name)
    (put : ∀ f ∈ shape.fields, ∀ {j r next}, f.put j r = .ok next →
      value next = if f.name = field then j else value r)
    {entries : Entries Json} {seen names : List String} {r last : ρ}
    (done : putEntries shape.fields entries seen r = .ok (last, names)) :
    value last = if field ∈ seen then value r else (Entries.get? entries field).getD (value r) := by
  obtain ⟨f, member, rfl⟩ := List.mem_map.1 known
  induction entries generalizing seen r with
  | nil =>
      cases done
      simp [Entries.get?]
  | cons e rest ih =>
      obtain ⟨name, j⟩ := e
      rw [putEntries] at done
      cases found : shape.fields.find? (·.hasName name) with
      | none =>
          rw [found] at done
          have other : f.name ≠ name := by
            rintro rfl
            rw [plain.find?_name member] at found
            cases found
          rw [ih done, Entries.get?_cons, if_neg other]
      | some g =>
          rw [found] at done
          have listed : g ∈ shape.fields := List.mem_of_find?_eq_some found
          obtain rfl : g.name = name :=
            (plain.hasName_iff listed).1 (by simpa using List.find?_some found)
          dsimp only at done
          split at done
          · cases done
          · rename_i unseen
            split at done
            · cases done
            · rename_i next first
              rw [ih done, Entries.get?_cons, put g listed first]
              by_cases same : g.name = f.name
              · have fresh : f.name ∉ seen := by simpa [same] using unseen
                simp [same, fresh]
              · simp [same, Ne.symm same]

theorem putItems_value {length : Nat} {fields : List (Field ρ)}
    (distinct : (fields.map Field.name).Nodup)
    (put : ∀ f ∈ fields, ∀ {j r next}, f.put j r = .ok next →
      value next = if f.name = field then j else value r)
    {items : List Json} {position : Nat} {r last : ρ}
    (done : putItems shape length fields items position r = .ok last) :
    value last = (Entries.get? ((fields.map Field.name).zip items) field).getD (value r) := by
  induction fields generalizing items position r with
  | nil =>
      cases items with
      | nil =>
          cases done
          rfl
      | cons j rest => cases done
  | cons f fields ih =>
      obtain ⟨once, distinct⟩ := List.nodup_cons.1 distinct
      have later := @ih distinct fun g member => put g (List.mem_cons_of_mem _ member)
      cases items with
      | nil =>
          rw [putItems] at done
          split at done
          · cases done
          · simpa using later done
      | cons j rest =>
          rw [putItems] at done
          split at done
          · cases done
          · rename_i next first
            rw [List.map_cons, List.zip_cons_cons, Entries.get?_cons, later done,
              put f List.mem_cons_self first]
            by_cases same : f.name = field
            · have none_later : Entries.get? ((fields.map Field.name).zip rest) field = none := by
                refine List.lookup_eq_none_iff.2 fun pair paired => ?_
                have named := (List.of_mem_zip paired).1
                exact bne_iff_ne.2 fun same' => once (same ▸ same' ▸ named)
              simp [same, none_later]
            · simp [same, Ne.symm same]

/-- **A record that has been read has for a field what was given for it**, or the default. -/
theorem Plain.value_of_read (value : ρ → Json) (plain : shape.Plain)
    (known : field ∈ shape.fields.map Field.name)
    (put : ∀ f ∈ shape.fields, ∀ {j r next}, f.put j r = .ok next →
      value next = if f.name = field then j else value r)
    {j : Json} {r : ρ} (read : shape.read j = .ok r) :
    value r = (shape.given? field j).getD (value shape.blank) := by
  cases j with
  | object entries =>
      obtain ⟨names, done⟩ := put_of_read_object read
      exact plain.putEntries_value known put done
  | array items => exact putItems_value plain.distinct put read
  | _ => cases read

end RecordShape

end Json

/-! ## Records -/

theorem lawful_linkTarget : LinkTarget.codec.Lawful :=
  fun t => (parts_linkTarget t).degrades.roundTrips rfl

theorem lawful_instanceRecord : InstanceRecord.codec.Lawful := fun _ => rfl

theorem lawful_configGroup : ConfigGroup.codec.Lawful :=
  fun g => (parts_configGroup g).degrades.roundTrips rfl

theorem lawful_updateSettings : UpdateSettings.codec.Lawful :=
  fun u => (parts_updateSettings u).degrades.roundTrips rfl

theorem lawful_settings : Settings.codec.Lawful :=
  fun s => (parts_settings s).degrades.roundTrips rfl

/-! ## Progress -/

theorem roundTrips_stats {s : InstanceStats} (finite : s.progress.isFinite = true) :
    InstanceStats.codec.RoundTrips s :=
  (parts_instanceStats s finite).degrades.roundTrips rfl

/-- The progress that is read is finite. -/
theorem finite_of_read_stats {j : Json} (fits : j.NumbersFit) {s : InstanceStats}
    (read : InstanceStats.codec.read j = .ok s) : s.progress.isFinite = true := by
  have blank : InstanceStats.shape.blank.progress.isFinite = true := by decide
  refine RecordShape.read_keeps (P := fun s => s.progress.isFinite = true) blank ?_ fits read
  intro f member j s next fits finite put
  simp only [InstanceStats.shape, List.mem_cons, List.not_mem_nil, or_false] at member
  rcases member with rfl | rfl | rfl
  case inl => obtain ⟨updated, -, rfl⟩ := Field.read_of_put put; exact finite
  case inr.inl => obtain ⟨total, -, rfl⟩ := Field.read_of_put put; exact finite
  case inr.inr =>
    obtain ⟨progress, given, rfl⟩ := Field.read_of_put put
    exact Codec.finite_of_read_float fits given

/-! ## Configurations -/

/-- The first field leaves the configuration as it is, the second sets it. -/
theorem config_of_put {f : Json.Field ConfigGroup} (member : f ∈ ConfigGroup.shape.fields)
    {j : Json} {g next : ConfigGroup} (put : f.put j g = .ok next) :
    next.config = if f.name = "config" then j else g.config := by
  simp only [ConfigGroup.shape, List.mem_cons, List.not_mem_nil, or_false] at member
  rcases member with rfl | rfl
  case inl =>
    obtain ⟨instances, -, rfl⟩ := Field.read_of_put put
    rfl
  case inr =>
    obtain ⟨config, given, rfl⟩ := Field.read_of_put put
    exact (Except.ok.inj given).symm

theorem config_of_read {j : Json} {g : ConfigGroup} (read : ConfigGroup.codec.read j = .ok g) :
    g.config = (ConfigGroup.shape.given? "config" j).getD .null := by
  have plain := (parts_configGroup g).plain
  exact plain.value_of_read ConfigGroup.config (by decide) (fun f => config_of_put) read

/-! ## All records -/

/-- **Reading undoes writing**, for every record whose numbers are finite; so does it for what has
been read from a JSON value, and the configuration of a group is the one that was given. -/
theorem records_restored :
    (LinkTarget.codec.Restores ∧ InstanceRecord.codec.Restores ∧ InstanceRange.codec.Restores ∧
      ConfigGroup.codec.Restores ∧ Timestamp.codec.Restores ∧ UpdateSettings.codec.Restores ∧
      LinkSettings.codec.Restores ∧ TemplateSettings.codec.Restores ∧ Settings.codec.Restores) ∧
    (∀ s, s.progress.isFinite = true → InstanceStats.codec.RoundTrips s) ∧
    (∀ j s, j.NumbersFit → InstanceStats.codec.read j = .ok s → InstanceStats.codec.RoundTrips s) ∧
    ∀ j g, ConfigGroup.codec.read j = .ok g →
      g.config = (ConfigGroup.shape.given? "config" j).getD .null := by
  refine ⟨⟨?link, ?record, ?range, ?group, ?time, ?update, ?links, ?templates, ?settings⟩,
    ?stats, ?statsRead, ?config⟩
  case link => exact lawful_linkTarget.restores
  case record => exact lawful_instanceRecord.restores
  case range => exact lawful_instanceRange.restores
  case group => exact lawful_configGroup.restores
  case time => exact lawful_timestamp.restores
  case update => exact lawful_updateSettings.restores
  case links => exact lawful_linkSettings.restores
  case templates => exact lawful_templateSettings.restores
  case settings => exact lawful_settings.restores
  case stats => exact fun s finite => roundTrips_stats finite
  case statsRead => exact fun j s fits read => roundTrips_stats (finite_of_read_stats fits read)
  case config => exact fun j g read => config_of_read read

/-- Statistics given as a list, with a whole number for the progress. -/
theorem stats_of_list_restored :
    let stats : InstanceStats := { updated := 1, total := 2, progress := .ofInt 50 }
    InstanceStats.codec.read (.array [.int 1, .int 2, .int 50]) = .ok stats ∧
      InstanceStats.codec.RoundTrips stats := by
  intro stats
  have fits : NumbersFit (.array [.int 1, .int 2, .int 50]) := by
    simp [NumbersFit, NumbersFit.inItems]
  have read : InstanceStats.codec.read (.array [.int 1, .int 2, .int 50]) = .ok stats := rfl
  exact ⟨read, records_restored.2.2.1 _ stats fits read⟩

end ConsoleView
