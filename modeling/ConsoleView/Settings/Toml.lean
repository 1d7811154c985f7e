/-
# ConsoleView.Settings.Toml -- settings as the text of a configuration file

A configuration file that is not TOML, or that binds a setting to a value of
another kind, stands for no settings at all.  Otherwise every setting that is
not in the file has its default, and names that mean nothing are passed over.  A
group of settings may also be a list of values in declared order; a date is a
group that sets nothing.
-/
import ConsoleView.Settings.Basic
import ConsoleView.Toml.Reader
import ConsoleView.Toml.Writer

namespace ConsoleView

set_option autoImplicit false

/-! ## Reading -/

/-- How to find a setting in a group, by its name and by its position. -/
def Toml.part? : Toml → Option (String → Nat → Option Toml)
  | .table entries => some fun name _ => entries.lookup name
  | .array items => some fun _ position => items[position]?
  | .moment _ => some fun _ _ => none
  | _ => none

def Toml.textOr (default : String) : Option Toml → Option String
  | none => some default
  | some (.string s) => some s
  | some _ => none

def Toml.boolOr (default : Bool) : Option Toml → Option Bool
  | none => some default
  | some (.bool b) => some b
  | some _ => none

def LinkSettings.ofToml (t : Toml) : Option LinkSettings := do
  let part ← t.part?
  let defaults : LinkSettings := {}
  let schedulerRoot ← Toml.textOr defaults.schedulerRoot (part "scheduler_root" 0)
  let taskRoot ← Toml.textOr defaults.taskRoot (part "task_root" 1)
  return { schedulerRoot, taskRoot }

def TemplateSettings.ofToml (t : Toml) : Option TemplateSettings := do
  let part ← t.part?
  let defaults : TemplateSettings := {}
  let root ← Toml.textOr defaults.root (part "root" 0)
  let cache ← Toml.boolOr defaults.cache (part "cache" 1)
  return { root, cache }

def Settings.ofToml (t : Toml) : Option Settings := do
  let part ← t.part?
  let links ← match part "links" 0 with
    | none => some {}
    | some t => LinkSettings.ofToml t
  let templates ← match part "templates" 1 with
    | none => some {}
    | some t => TemplateSettings.ofToml t
  return { links, templates }

def Settings.ofText (file : String) : Option Settings := (Toml.read file).bind Settings.ofToml

/-! ## Writing -/

def settingsHeader : String := "# Scheduler console bindings configuration\n\n"

def textLine (name value : String) : List Char :=
  name.toList ++ " = ".toList ++ Toml.textChars value ++ ['\n']

def boolLine (name : String) (value : Bool) : List Char :=
  name.toList ++ " = ".toList ++ (if value then "true" else "false").toList ++ ['\n']

/-- The settings as the text of a configuration file. -/
def Settings.text (s : Settings) : String :=
  String.ofList <|
    settingsHeader.toList ++
      ("[links]\n".toList ++ textLine "scheduler_root" s.links.schedulerRoot ++
        textLine "task_root" s.links.taskRoot) ++
      ("\n[templates]\n".toList ++ textLine "root" s.templates.root ++
        boolLine "cache" s.templates.cache)

end ConsoleView
