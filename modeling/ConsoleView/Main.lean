/-
# ConsoleView.Main -- the program on the disk of a computer
-/
import ConsoleView.CommandLine.Run
import ConsoleView.Time.Timestamp
import Std.Time.DateTime.Timestamp

namespace ConsoleView

set_option autoImplicit false

/-- The fault with a number of the operating system, which may come with its sign changed. -/
def FileFault.ofCode (code : UInt32) (details : String) : FileFault :=
  match if code < 0x80000000 then code else 0 - code with
  | 2 => .notFound
  | 17 => .alreadyExists
  | 20 => .notDirectory
  | 21 => .isDirectory
  | 36 => .nameTooLong
  | 39 => .notEmpty
  | number => .other (details ++ " (os error " ++ toString number ++ ")")

def FileFault.ofException (e : IO.Error) : FileFault :=
  match e with
  | .noFileOrDirectory _ code details | .interrupted _ code details => .ofCode code details
  | .alreadyExists _ code details | .invalidArgument _ code details
  | .permissionDenied _ code details | .resourceExhausted _ code details
  | .inappropriateType _ code details | .noSuchThing _ code details => .ofCode code details
  | .otherError code details | .resourceBusy code details | .resourceVanished code details
  | .unsupportedOperation code details | .hardwareFault code details
  | .unsatisfiedConstraints code details | .illegalOperation code details
  | .protocolError code details | .timeExpired code details => .ofCode code details
  | .unexpectedEof => .other "unexpected end of file"
  | .userError details => .other details

/-- An operation on a path, which has no NUL character. -/
def guarded {α : Type} (path : String) (op : IO α) : IO (Except FileFault α) := do
  if path.toList.contains (Char.ofNat 0) then
    return .error .nulInName
  try
    return .ok (← op)
  catch e => return .error (.ofException e)

def computerDisk : Disk IO where
  isPresent path := return (← guarded path (IO.FS.realPath path)).isOk
  isDirectory path := return (← guarded path (IO.FS.realPath (path ++ "/."))).isOk
  readText path := do
    match ← guarded path (IO.FS.readBinFile path) with
    | .error fault => return .error fault
    | .ok bytes =>
        match String.fromUTF8? bytes with
        | some text => return .ok text
        | none => return .error .notText
  writeText path text := guarded path (IO.FS.writeFile path text)
  renameFile source target := guarded (source ++ target) (IO.FS.rename source target)
  makeDirectory path := guarded path (IO.FS.createDir path)

def today : IO String := do
  let now ← Std.Time.Timestamp.now
  let moment := Time.Moment.ofMillis now.toMillisecondsSinceUnixEpoch.val
  return String.ofList (moment.text.toList.take 10)

def environment : IO Environment := do
  return {
    dataHome := ← IO.getEnv "XDG_DATA_HOME"
    home := ← IO.getEnv "HOME"
    currentDirectory := (← IO.currentDir).toString
    date := ← today }

/-- The reasons why there is no line, numbered from the outermost. -/
def report (causes : List String) : String :=
  let line (i : Nat) (cause : String) : String := "   " ++ toString i ++ ": " ++ cause ++ "\n"
  "Error: \n" ++ String.join (causes.mapIdx line)

end ConsoleView

def main (args : List String) : IO UInt32 := do
  let outcome ← ConsoleView.runProgram ConsoleView.computerDisk (← ConsoleView.environment) args
  if outcome.code == 1 then
    (← IO.getStderr).putStr (ConsoleView.report outcome.causes)
  (← IO.getStdout).putStr outcome.stdout
  return outcome.code
