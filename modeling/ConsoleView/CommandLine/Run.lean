/-
# ConsoleView.CommandLine.Run -- a run of the program

A run prints one line or none.  It ends with 0 after a line; with 1 and the
reasons, the outermost first, when it cannot make one; with 2 when it does not
understand its arguments.  A component that fails alone is no such case: its
placeholder is the line.

Of the log there is only its file.  A run begins by making it, and ends with 101
if it cannot be opened, as when there is a directory at its path; a log directory
that cannot be made is a reason like the others.  The events that are written to
the file are left out: no part of the program reads them.
-/
import ConsoleView.CommandLine.Arguments
import ConsoleView.Json.Reader
import ConsoleView.Preview.Render
import ConsoleView.Settings.File

namespace ConsoleView

set_option autoImplicit false

/-- What the program finds around it. -/
structure Environment where
  /-- Where data is kept, if the user has said so. -/
  dataHome : Option String := none
  home : Option String := none
  /-- The home that the account has. -/
  accountHome : Option String := none
  currentDirectory : String
  /-- The date in the name of the log file. -/
  date : String

structure Outcome where
  code : UInt32
  stdout : String := ""
  /-- Why there is no line. -/
  causes : List String := []
deriving DecidableEq, Repr, Inhabited

def Outcome.failure (causes : List String) : Outcome := { code := 1, causes }

/-- An error with what is behind it. -/
def ViewError.causes (e : ViewError) : List String :=
  match e with
  | .io fault => [e.message, fault.text]
  | .json mismatch => [e.message, mismatch.message]
  | _ => [e.message]

/-! ## The log -/

def Environment.dataDirectory (env : Environment) : String :=
  let fallback :=
    match (env.home.filter fun h => !h.isEmpty).or env.accountHome with
    | some home => joinPath home ".local/share"
    | none => "."
  match env.dataHome with
  | some dir => if isAbsolutePath dir then dir else fallback
  | none => fallback

def Environment.logDirectory (env : Environment) : String :=
  joinPath (joinPath env.dataDirectory "scheduler-console") "logs"

def Environment.logFile (env : Environment) : String :=
  joinPath env.logDirectory ("console.log." ++ env.date)

variable {m : Type → Type} [Monad m]

/-- Make the log file if it is not there; without one the program does not go on. -/
def openLog (disk : Disk m) (env : Environment) : m (Option Outcome) := do
  match ← disk.makeDirectories env.logDirectory with
  | .error fault =>
      return some (.failure ("failed to initialize logging" :: (ViewError.io fault).causes))
  | .ok () =>
      if ← disk.isDirectory env.logFile then
        return some { code := 101 }
      if ← disk.isPresent env.logFile then
        return none
      match ← disk.writeText env.logFile "" with
      | .error _ => return some { code := 101 }
      | .ok () => return none

/-! ## The fixture -/

def fixtureNesting : Nat := 127

/-- The scope a fixture's text stands for, or why it stands for none. -/
def readFixture (text : String) : Except (List String) Scope :=
  match Json.read fixtureNesting text with
  | .error why => .error ["parsing fixture", why]
  | .ok j =>
      match Scope.ofJson? j with
      | some scope => .ok scope
      | none => .error ["fixture must be a JSON object, got " ++ j.print]

/-! ## Runs -/

def initIfAsked (disk : Disk m) (arguments : Arguments) (dir : String) :
    m (Except ViewError Unit) :=
  if arguments.init then initSettings disk dir else return .ok ()

def Outcome.ofRendering (name : String) : Except ViewError PreviewOutput → Outcome
  | .ok output => { code := 0, stdout := output.line ++ "\n" }
  | .error e => .failure (("rendering " ++ name) :: e.causes)

/-- Run with arguments that are understood. -/
def runWith (disk : Disk m) (env : Environment) (arguments : Arguments) : m Outcome := do
  if let some outcome ← openLog disk env then
    return outcome
  let dir := arguments.configDir.getD env.currentDirectory
  match ← initIfAsked disk arguments dir with
  | .error e => return .failure (("initializing " ++ dir) :: e.causes)
  | .ok () =>
      let settings ← loadSettings disk dir
      match ← disk.readText arguments.fixture with
      | .error fault => return .failure ["reading fixture " ++ arguments.fixture, fault.text]
      | .ok text =>
          match readFixture text with
          | .error causes => return .failure causes
          | .ok fixture =>
              let templates := configuredTemplates dir settings
              let (rendered, _) ←
                renderFromFiles disk templates arguments.component fixture settings
              return .ofRendering arguments.component (orPlaceholder arguments.component rendered)

def runProgram (disk : Disk m) (env : Environment) (args : List String) : m Outcome :=
  match CommandLine.read args with
  | .badUsage => return { code := 2 }
  | .help => return { code := 0 }
  | .run arguments => runWith disk env arguments

end ConsoleView
