/-
# ConsoleView.CommandLine.Arguments -- what the program is asked to do

Two names are needed: the component and the file of its data.  Options may stand
before, between and after them; after `--` everything is a name.  An option is
given once.  A path is not empty, the name of a component may be.
-/

namespace ConsoleView

set_option autoImplicit false

/-- A request to render a component. -/
structure Arguments where
  component : String
  fixture : String
  /-- The configuration directory, if it is not the current one. -/
  configDir : Option String := none
  /-- Whether to write a configuration file first. -/
  init : Bool := false
deriving DecidableEq, Repr, Inhabited

inductive CommandLine where
  | run (arguments : Arguments)
  | help
  | badUsage
deriving DecidableEq, Repr, Inhabited

namespace CommandLine

structure Reading where
  component : Option String := none
  fixture : Option String := none
  configDir : Option String := none
  init : Bool := false
deriving DecidableEq, Repr

/-- The request, if it is complete. -/
def Reading.finish (r : Reading) : CommandLine :=
  match r.component, r.fixture with
  | some component, some fixture =>
      .run { component, fixture, configDir := r.configDir, init := r.init }
  | _, _ => .badUsage

def Reading.addName (r : Reading) (name : String) : Option Reading :=
  match r.component, r.fixture with
  | none, _ => some { r with component := some name }
  | some _, none => if name.isEmpty then none else some { r with fixture := some name }
  | some _, some _ => none

def Reading.addConfigDir (r : Reading) (dir : String) : Option Reading :=
  if r.configDir.isSome || dir.isEmpty then none else some { r with configDir := some dir }

/-- Whether an argument cannot be a value or a name: it starts with a hyphen and goes on. -/
def isFlag (arg : String) : Bool :=
  match arg.toList with
  | '-' :: _ :: _ => true
  | _ => false

/-- The value after an option and an equals sign. -/
def valueOf? (option arg : String) : Option String :=
  let start := option.toList ++ ['=']
  if start.isPrefixOf arg.toList then some (String.ofList (arg.toList.drop start.length)) else none

/-- All arguments left are names. -/
def readNames : Reading → List String → CommandLine
  | r, [] => r.finish
  | r, arg :: rest =>
      match r.addName arg with
      | some r => readNames r rest
      | none => .badUsage

def readFrom : Reading → List String → CommandLine
  | r, [] => r.finish
  | r, arg :: rest =>
      if arg = "--" then readNames r rest
      else if arg = "--init" then
        if r.init then .badUsage else readFrom { r with init := true } rest
      else if arg = "--config-dir" then
        match rest with
        | [] => .badUsage
        | dir :: rest =>
            if isFlag dir then .badUsage
            else
              match r.addConfigDir dir with
              | some r => readFrom r rest
              | none => .badUsage
      else if arg = "--help" || "-h".toList.isPrefixOf arg.toList then .help
      else
        match valueOf? "--config-dir" arg with
        | some dir =>
            match r.addConfigDir dir with
            | some r => readFrom r rest
            | none => .badUsage
        | none =>
            if isFlag arg then .badUsage
            else
              match r.addName arg with
              | some r => readFrom r rest
              | none => .badUsage

def read (args : List String) : CommandLine := readFrom {} args

example : read ["job-link", "f.json", "--config-dir=conf"] =
    .run { component := "job-link", fixture := "f.json", configDir := some "conf" } := by
  decide +kernel

example : read ["--init", "job-link"] = .badUsage := by decide +kernel

end CommandLine

end ConsoleView
