/-
# ConsoleView.Settings.Basic -- the settings of the console
-/
import ConsoleView.Json.Record

namespace ConsoleView

set_option autoImplicit false

open Json

structure LinkSettings where
  /-- Where the pages of roles, environments and jobs are. -/
  schedulerRoot : String := "/scheduler"
  /-- Where the dumps of tasks are. -/
  taskRoot : String := "/structdump/task"
deriving DecidableEq, Repr, Inhabited

def LinkSettings.shape : RecordShape LinkSettings where
  name := "LinkSettings"
  blank := {}
  fields := [
    Field.of "scheduler_root" Codec.string LinkSettings.schedulerRoot
      fun s schedulerRoot => { s with schedulerRoot },
    Field.of "task_root" Codec.string LinkSettings.taskRoot
      fun s taskRoot => { s with taskRoot }]

def LinkSettings.codec : Codec LinkSettings := LinkSettings.shape.codec

structure TemplateSettings where
  /-- The directory of the template files, seen from the configuration directory. -/
  root : String := "templates"
  /-- Whether a template that was read once is kept. -/
  cache : Bool := true
deriving DecidableEq, Repr, Inhabited

def TemplateSettings.shape : RecordShape TemplateSettings where
  name := "TemplateSettings"
  blank := {}
  fields := [
    Field.of "root" Codec.path TemplateSettings.root fun s root => { s with root },
    Field.of "cache" Codec.bool TemplateSettings.cache fun s cache => { s with cache }]

def TemplateSettings.codec : Codec TemplateSettings := TemplateSettings.shape.codec

structure Settings where
  links : LinkSettings := {}
  templates : TemplateSettings := {}
deriving DecidableEq, Repr, Inhabited

def Settings.shape : RecordShape Settings where
  name := "Settings"
  blank := {}
  fields := [
    Field.of "links" LinkSettings.codec Settings.links fun s links => { s with links },
    Field.of "templates" TemplateSettings.codec Settings.templates
      fun s templates => { s with templates }]

def Settings.codec : Codec Settings := Settings.shape.codec

end ConsoleView
