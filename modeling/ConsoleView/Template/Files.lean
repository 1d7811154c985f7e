/-
# ConsoleView.Template.Files -- templates read from a directory

A template is the file of its name.  A file that is not there is a template that
is not there; any other fault is passed on with the path.  If a cache is kept,
the first text read for a name is served from then on, whatever happens to the
file; failures are not kept.
-/
import ConsoleView.Disk.Basic
import ConsoleView.Template.Resolver

namespace ConsoleView

set_option autoImplicit false

/-- A directory of templates, with the texts that are kept if any are. -/
structure FileTemplates where
  root : String
  cache : Option (List (TemplateName × String))
deriving DecidableEq, Repr, Inhabited

namespace FileTemplates

def cached (root : String) : FileTemplates := ⟨root, some []⟩

def uncached (root : String) : FileTemplates := ⟨root, none⟩

def isCached (f : FileTemplates) : Bool := f.cache.isSome

def path (f : FileTemplates) (name : TemplateName) : String := joinPath f.root name.fileName

def readError (f : FileTemplates) (name : TemplateName) : FileFault → ViewError
  | .notFound => .templateNotFound name.url
  | fault => .templateRead name.url (f.path name) fault.text

/-- What reading the file gives, as an answer for the template. -/
def answer (f : FileTemplates) (name : TemplateName) :
    Except FileFault String → Except ViewError String
  | .ok markup => .ok markup
  | .error fault => .error (f.readError name fault)

def kept? (f : FileTemplates) (name : TemplateName) : Option String :=
  f.cache.bind fun entries => entries.lookup name

def keep (f : FileTemplates) (name : TemplateName) (markup : String) : FileTemplates :=
  { f with cache := f.cache.map fun entries => (name, markup) :: entries }

variable {m : Type → Type} [Monad m]

/-- Resolve a template, from what is kept or else from its file. -/
def resolve (disk : Disk m) (f : FileTemplates) (name : TemplateName) :
    m (Except ViewError String × FileTemplates) := do
  match f.kept? name with
  | some markup => return (.ok markup, f)
  | none =>
      match f.answer name (← disk.readText (f.path name)) with
      | .ok markup => return (.ok markup, f.keep name markup)
      | .error e => return (.error e, f)

end FileTemplates

end ConsoleView
