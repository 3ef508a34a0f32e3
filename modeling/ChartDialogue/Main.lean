import ChartDialogue.CommandLine.Console
import ChartDialogue.CommandLine.PathTool
import Std.Time

/-! # The programs

The path tool and the console on a disk, with the clock, the environment and the random bytes of
the machine they run on.
-/

open ChartDialogue ChartDialogue.CommandLine

namespace ChartDialogue.CommandLine

/-! ## Files on a disk -/

def faultOf : IO.Error → FileFault
  | .noFileOrDirectory .. => .notFound
  | .alreadyExists .. => .alreadyExists
  | .inappropriateType _ code _ => if code = 20 then .notDirectory else .isDirectory
  | other => .other (toString other)

def attemptIO {α : Type} (action : IO α) : IO (Except FileFault α) := do
  try
    return .ok (← action)
  catch failed =>
    return .error (faultOf failed)

def appendText (name text : String) : IO Unit := do
  let handle ← IO.FS.Handle.mk name .append
  handle.putStr text
  handle.flush

instance : FileAccess IO where
  currentDirectory := toString <$> IO.currentDir
  isFile name := (·.isOk) <$> attemptIO (IO.FS.readBinFile name)
  isPresent name := do
    match ← attemptIO (IO.FS.readBinFile name) with
    | .ok _ | .error .isDirectory => return true
    | .error _ => return false
  read name := attemptIO (IO.FS.readBinFile name)
  write name text := attemptIO (IO.FS.writeFile name text)
  append name text := attemptIO (appendText name text)
  makeDirectories name := attemptIO (if name.isEmpty then pure () else IO.FS.createDirAll name)

/-! ## Surroundings -/

def variableOf (characters : List Char) : String × String :=
  match splitEquals characters with
  | (name, value) => (String.ofList name, String.ofList (value.getD []))

def environment : IO (List (String × String)) := do
  match ← FileAccess.readText "/proc/self/environ" with
  | .error _ => return []
  | .ok text =>
    return ((text.toList.splitOn '\x00').filter fun text => ¬ text.isEmpty).map variableOf

/-- Where users keep their settings: the directory named for it if it is absolute, else the usual
place in the home directory. -/
def settingsDirectory : IO (Option String) := do
  match (← IO.getEnv "XDG_CONFIG_HOME").filter FileName.isAbsolute with
  | some directory => return some directory
  | none => return (← IO.getEnv "HOME").map fun home => FileName.join home ".config"

def surroundings : IO Surroundings := do
  return { userDirectory := ← settingsDirectory, environment := ← environment }

def randomCounter : IO MixedCounter := do
  let bytes ← IO.getRandomBytes 8
  return ⟨bytes.toList.foldl (fun word byte => word * 256 + byte.toUInt64) 0⟩

def timeStamp : IO String := do
  let now ← Std.Time.Timestamp.now
  return (Std.Time.DateTime.ofTimestamp now Std.Time.TimeZone.ZoneRules.UTC).format
    "uuuu-MM-dd'T'HH:mm:ss.SSSSSSSSSxxx"

/-! ## Running -/

def deliver (outcome : Outcome) : IO UInt32 := do
  IO.print outcome.output
  IO.eprint outcome.errors
  return UInt32.ofNat outcome.code

partial def answerInput (service : Service) (session : String) (input : IO.FS.Stream)
    (state : ServiceState MixedCounter) : IO UInt32 := do
  match ← attemptIO input.getLine with
  | .error fault => deliver (.ofFault (.file fault))
  | .ok read =>
    if read.isEmpty then return 0
    else
      let line := (Text.lines read).head?.getD ""
      let (outcome, state) ← Console.answer service session (← timeStamp) state line
      let _ ← deliver outcome
      answerInput service session input state

def runConsole (arguments : List String) : IO UInt32 := do
  match Console.parse arguments with
  | .error fault => deliver (.ofUsage Console.usage fault)
  | .ok request =>
    match ← (Console.start (← surroundings) request).run with
    | .error fault => deliver (.ofFault fault)
    | .ok service =>
      answerInput service request.session (← IO.getStdin) { source := ← randomCounter }

def runPathTool (arguments : List String) : IO UInt32 := do
  deliver (← PathTool.run (← surroundings) (← randomCounter) arguments)

end ChartDialogue.CommandLine

def main : List String → IO UInt32
  | "paths" :: arguments => runPathTool arguments
  | "console" :: arguments => runConsole arguments
  | _ => do
    IO.eprint (PathTool.usage ++ Console.usage)
    return 2
