/-
# ConsoleView.Settings.File -- the configuration file in its directory

Loading never fails: a file that is not there, cannot be read or is not a
configuration stands for the defaults.  Saving writes another file first and
then puts it in the place of the old one, so the old file is whole until the new
one is.  Initializing leaves a file that is there as it is.
-/
import ConsoleView.Disk.Basic
import ConsoleView.Error
import ConsoleView.Settings.Toml

namespace ConsoleView

set_option autoImplicit false

def settingsFile : String := "console.toml"

/-- The name under which the configuration file is written before it is put in place. -/
def settingsDraft : String := ".console.toml.tmp"

/-- The directory of the templates, seen from the configuration directory. -/
def templateRoot (dir : String) (settings : Settings) : String :=
  joinPath dir settings.templates.root

variable {m : Type → Type} [Monad m]

def loadSettings (disk : Disk m) (dir : String) : m Settings := do
  let path := joinPath dir settingsFile
  if !(← disk.isPresent path) then
    return {}
  match ← disk.readText path with
  | .error _ => return {}
  | .ok file => return (Settings.ofText file).getD {}

def saveError (step : String) (fault : FileFault) : ViewError :=
  .config ("Failed to " ++ step ++ ": " ++ fault.text)

def prepareDirectory (disk : Disk m) (dir : String) : m (Except FileFault Unit) := do
  if ← disk.isPresent dir then
    return .ok ()
  disk.makeDirectories dir

def saveSettings (disk : Disk m) (dir : String) (settings : Settings) :
    m (Except ViewError Unit) := do
  match ← prepareDirectory disk dir with
  | .error fault => return .error (saveError "create config dir" fault)
  | .ok () =>
      let draft := joinPath dir settingsDraft
      match ← disk.writeText draft settings.text with
      | .error fault => return .error (saveError "write temp file" fault)
      | .ok () =>
          match ← disk.renameFile draft (joinPath dir settingsFile) with
          | .error fault => return .error (saveError "rename temp file" fault)
          | .ok () => return .ok ()

/-- Save the defaults unless there is a configuration file. -/
def initSettings (disk : Disk m) (dir : String) : m (Except ViewError Unit) := do
  if ← disk.isPresent (joinPath dir settingsFile) then
    return .ok ()
  saveSettings disk dir {}

end ConsoleView
