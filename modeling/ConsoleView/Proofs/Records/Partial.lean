/-
# ConsoleView.Proofs.Records.Partial -- records with some of their fields

Most records have a default for each field.  Such a record may be given in part:
as an object that leaves some fields out, or as a list that stops early.  What
is read then is the record's *part*, with the fields that were given and the
others at their defaults (`records_degrade`).  The defaults are written out
here, apart from the shapes: those of the settings are not the empty ones.
-/
import ConsoleView.Proofs.Json.Numbers
import ConsoleView.Proofs.Json.Partial
import ConsoleView.Proofs.Json.RoundTrip
import ConsoleView.Component.Link
import ConsoleView.Records.Updates
import ConsoleView.Settings.Basic

namespace ConsoleView

set_option autoImplicit false

open Json

/-! ## Parts

The part of a record for a choice of its JSON names. -/

def LinkTarget.part (t : LinkTarget) (kept : String → Bool) : LinkTarget where
  value := if kept "value" then t.value else ""
  role := if kept "role" then t.role else none
  environment := if kept "environment" then t.environment else none

def InstanceStats.part (s : InstanceStats) (kept : String → Bool) : InstanceStats where
  updated := if kept "instancesUpdatedSoFar" then s.updated else 0
  total := if kept "totalInstancesToBeUpdated" then s.total else 0
  progress := if kept "progress" then s.progress else 0.0

def ConfigGroup.part (g : ConfigGroup) (kept : String → Bool) : ConfigGroup where
  instances := if kept "instances" then g.instances else []
  config := if kept "config" then g.config else .null

def UpdateSettings.part (u : UpdateSettings) (kept : String → Bool) : UpdateSettings where
  updateGroupSize := if kept "updateGroupSize" then u.updateGroupSize else 0
  maxPerInstanceFailures := if kept "maxPerInstanceFailures" then u.maxPerInstanceFailures else 0
  maxFailedInstances := if kept "maxFailedInstances" then u.maxFailedInstances else 0
  minWaitInInstanceRunningMs :=
    if kept "minWaitInInstanceRunningMs" then u.minWaitInInstanceRunningMs else 0
  rollbackOnFailure := if kept "rollbackOnFailure" then u.rollbackOnFailure else false
  waitForBatchCompletion := if kept "waitForBatchCompletion" then u.waitForBatchCompletion else false
  blockIfNoPulsesAfterMs :=
    if kept "blockIfNoPulsesAfterMs" then u.blockIfNoPulsesAfterMs else none
  updateOnlyTheseInstances :=
    if kept "updateOnlyTheseInstances" then u.updateOnlyTheseInstances else []

def LinkSettings.part (s : LinkSettings) (kept : String → Bool) : LinkSettings where
  schedulerRoot := if kept "scheduler_root" then s.schedulerRoot else "/scheduler"
  taskRoot := if kept "task_root" then s.taskRoot else "/structdump/task"

def TemplateSettings.part (s : TemplateSettings) (kept : String → Bool) : TemplateSettings where
  root := if kept "root" then s.root else "templates"
  cache := if kept "cache" then s.cache else true

def Settings.part (s : Settings) (kept : String → Bool) : Settings where
  links :=
    if kept "links" then s.links
    else { schedulerRoot := "/scheduler", taskRoot := "/structdump/task" }
  templates := if kept "templates" then s.templates else { root := "templates", cache := true }

/-! ## Fields put into parts -/

theorem parts_linkTarget (t : LinkTarget) : LinkTarget.shape.Parts t t.part where
  plain := ⟨by decide, by simp [LinkTarget.shape, Field.of]⟩
  optional := by simp [LinkTarget.shape, Field.of]
  blank kept none := by
    simp only [LinkTarget.shape, List.forall_mem_cons, Field.name_of] at none
    simp only [LinkTarget.part, none]
    rfl
  put := by
    have text := Codec.lawful_string
    have optional := Codec.lawful_option Codec.lawful_string Codec.shown_string
    simp [LinkTarget.shape, LinkTarget.part, text, optional]

theorem parts_instanceStats (s : InstanceStats) (finite : s.progress.isFinite = true) :
    InstanceStats.shape.Parts s s.part where
  plain := ⟨by decide, by simp [InstanceStats.shape, Field.of]⟩
  optional := by simp [InstanceStats.shape, Field.of]
  blank kept none := by
    simp only [InstanceStats.shape, List.forall_mem_cons, Field.name_of] at none
    simp only [InstanceStats.part, none]
    rfl
  put := by
    have number := Codec.lawful_uint32
    have percentage := Codec.roundTrips_float finite
    simp [InstanceStats.shape, InstanceStats.part, number,
      Field.put_write_of_roundTrips percentage]

theorem parts_configGroup (g : ConfigGroup) : ConfigGroup.shape.Parts g g.part where
  plain := ⟨by decide, by simp [ConfigGroup.shape, Field.of]⟩
  optional := by simp [ConfigGroup.shape, Field.of]
  blank kept none := by
    simp only [ConfigGroup.shape, List.forall_mem_cons, Field.name_of] at none
    simp only [ConfigGroup.part, none]
    rfl
  put := by
    have ranges := Codec.lawful_list lawful_instanceRange
    have config := Codec.lawful_raw
    simp [ConfigGroup.shape, ConfigGroup.part, ranges, config]

theorem parts_updateSettings (u : UpdateSettings) : UpdateSettings.shape.Parts u u.part where
  plain := ⟨by decide, by simp [UpdateSettings.shape, Field.of]⟩
  optional := by simp [UpdateSettings.shape, Field.of]
  blank kept none := by
    simp only [UpdateSettings.shape, List.forall_mem_cons, Field.name_of] at none
    simp only [UpdateSettings.part, none]
    rfl
  put := by
    have number := Codec.lawful_uint32
    have long := Codec.lawful_uint64
    have flag := Codec.lawful_bool
    have pause := Codec.lawful_option Codec.lawful_uint64 Codec.shown_uint64
    have ranges := Codec.lawful_list lawful_instanceRange
    simp [UpdateSettings.shape, UpdateSettings.part, number, long, flag, pause, ranges]

theorem parts_linkSettings (s : LinkSettings) : LinkSettings.shape.Parts s s.part where
  plain := ⟨by decide, by simp [LinkSettings.shape, Field.of]⟩
  optional := by simp [LinkSettings.shape, Field.of]
  blank kept none := by
    simp only [LinkSettings.shape, List.forall_mem_cons, Field.name_of] at none
    simp only [LinkSettings.part, none]
    rfl
  put := by
    have text := Codec.lawful_string
    simp [LinkSettings.shape, LinkSettings.part, text]

theorem lawful_linkSettings : LinkSettings.codec.Lawful :=
  fun s => (parts_linkSettings s).degrades.roundTrips rfl

theorem parts_templateSettings (s : TemplateSettings) : TemplateSettings.shape.Parts s s.part where
  plain := ⟨by decide, by simp [TemplateSettings.shape, Field.of]⟩
  optional := by simp [TemplateSettings.shape, Field.of]
  blank kept none := by
    simp only [TemplateSettings.shape, List.forall_mem_cons, Field.name_of] at none
    simp only [TemplateSettings.part, none]
    rfl
  put := by
    have directory := Codec.lawful_path
    have flag := Codec.lawful_bool
    simp [TemplateSettings.shape, TemplateSettings.part, directory, flag]

theorem lawful_templateSettings : TemplateSettings.codec.Lawful :=
  fun s => (parts_templateSettings s).degrades.roundTrips rfl

theorem parts_settings (s : Settings) : Settings.shape.Parts s s.part where
  plain := ⟨by decide, by simp [Settings.shape, Field.of]⟩
  optional := by simp [Settings.shape, Field.of]
  blank kept none := by
    simp only [Settings.shape, List.forall_mem_cons, Field.name_of] at none
    simp only [Settings.part, none]
    rfl
  put := by
    have links := lawful_linkSettings
    have templates := lawful_templateSettings
    simp [Settings.shape, Settings.part, links, templates]

/-! ## Records in part -/

/-- **Partial data degrades field by field**: an object of some of a record's fields, among
entries of any other names, and a list of its first values are read as the part of the record
with these fields. -/
theorem records_degrade :
    (∀ t : LinkTarget, LinkTarget.shape.Degrades t t.part) ∧
    (∀ s : InstanceStats, s.progress.isFinite = true → InstanceStats.shape.Degrades s s.part) ∧
    (∀ g : ConfigGroup, ConfigGroup.shape.Degrades g g.part) ∧
    (∀ u : UpdateSettings, UpdateSettings.shape.Degrades u u.part) ∧
    (∀ s : LinkSettings, LinkSettings.shape.Degrades s s.part) ∧
    (∀ s : TemplateSettings, TemplateSettings.shape.Degrades s s.part) ∧
    (∀ s : Settings, Settings.shape.Degrades s s.part) := by
  refine ⟨?link, ?stats, ?group, ?update, ?links, ?templates, ?settings⟩
  case link => exact fun t => (parts_linkTarget t).degrades
  case stats => exact fun s finite => (parts_instanceStats s finite).degrades
  case group => exact fun g => (parts_configGroup g).degrades
  case update => exact fun u => (parts_updateSettings u).degrades
  case links => exact fun s => (parts_linkSettings s).degrades
  case templates => exact fun s => (parts_templateSettings s).degrades
  case settings => exact fun s => (parts_settings s).degrades

/-- Statistics without the progress, and with an entry of another name. -/
theorem stats_without_progress :
    InstanceStats.shape.read (ofMap (NameMap.ofList [("instancesUpdatedSoFar", .int 1),
      ("shown", .bool true), ("totalInstancesToBeUpdated", .int 2)])) =
      .ok { updated := 1, total := 2, progress := 0.0 } := by
  let stats : InstanceStats := { updated := 1, total := 2, progress := 50.0 }
  have finite : stats.progress.isFinite = true := by decide
  have degrades := records_degrade.2.1 stats finite
  refine degrades.object (fun name => name != "progress") _ fun f member => ?_
  have written : (InstanceStats.shape.write stats).field? f.name = some (f.write stats) :=
    (parts_instanceStats stats finite).plain.get?_written stats member
  rw [written]
  simp only [InstanceStats.shape, List.mem_cons, List.not_mem_nil, or_false] at member
  rcases member with rfl | rfl | rfl <;> rfl

end ConsoleView
