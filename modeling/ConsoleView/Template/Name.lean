/-
# ConsoleView.Template.Name -- the external templates
-/

namespace ConsoleView

set_option autoImplicit false

inductive TemplateName where
  | breadcrumb
  | error
  | taskSandbox
  | groupSummary
  | configSummary
  | timeDisplay
  | updateSettings
deriving DecidableEq, Repr, Inhabited

namespace TemplateName

def all : List TemplateName :=
  [breadcrumb, error, taskSandbox, groupSummary, configSummary, timeDisplay, updateSettings]

theorem mem_all (name : TemplateName) : name ∈ all := by cases name <;> decide

def fileName : TemplateName → String
  | breadcrumb => "breadcrumb.html"
  | error => "error.html"
  | taskSandbox => "taskSandbox.html"
  | groupSummary => "groupSummary.html"
  | configSummary => "configSummary.html"
  | timeDisplay => "timeDisplay.html"
  | updateSettings => "updateSettings.html"

/-- The path under which the host serves the template; this is also how a template is shown. -/
def url (name : TemplateName) : String := "/" ++ name.fileName

def ofFileName? (file : String) : Option TemplateName := all.find? fun name => name.fileName == file

theorem ofFileName?_fileName (name : TemplateName) : ofFileName? name.fileName = some name := by
  cases name <;> decide

end TemplateName

end ConsoleView
