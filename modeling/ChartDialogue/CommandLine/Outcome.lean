import ChartDialogue.CommandLine.Arguments
import ChartDialogue.Resource.Bundle
import ChartDialogue.Settings.File

/-! # Running a program

What a program prints, what it reports as errors, and the code it ends with. A program finds its
settings in files, in the user's directory of settings, and in the environment.
-/

namespace ChartDialogue.CommandLine

structure Outcome where
  code : Nat := 0
  output : String := ""
  errors : String := ""
deriving DecidableEq

/-- Where a program finds its settings besides the current directory. -/
structure Surroundings where
  userDirectory : Option String := none
  environment : List (String × String) := []

inductive ProgramFault where
  | settings (fault : SettingsFault)
  | load (fault : LoadFault)
  | check (fault : CheckFault)
  | unknownTag (name : String)
  | noDumpDirectory
  | file (fault : FileFault)
  | log (fault : FileFault)

def ProgramFault.message : ProgramFault → String
  | .settings fault => fault.message
  | .load fault => fault.message
  | .check fault => fault.message
  | .unknownTag name => "unknown tag " ++ name
  | .noDumpDirectory => "no output directory given or configured"
  | .file fault => fault.message
  | .log fault => "IO error: " ++ fault.message

def errorLine (message : String) : String := "Error: " ++ message ++ "\n"

namespace Outcome

def ofUsage (usage : String) : UsageFault → Outcome
  | .help => { output := usage }
  | fault => { code := 2, errors := "error: " ++ fault.message ++ "\n\n" ++ usage }

def ofFault (fault : ProgramFault) : Outcome := { code := 1, errors := errorLine fault.message }

def ofResult : Except ProgramFault String → Outcome
  | .ok output => { output }
  | .error fault => ofFault fault

end Outcome

variable {m : Type → Type} [Monad m] [FileAccess m]

def prepare (surroundings : Surroundings) (config : Option String) :
    ExceptT ProgramFault m (Settings × Resources) := do
  let settings ← ExceptT.mk (Except.mapError .settings <$>
    (Settings.load (m := m) surroundings.userDirectory config surroundings.environment).run)
  let resources ← ExceptT.mk (Except.mapError .load <$>
    (Resources.load (m := m) settings.resources).run)
  return (settings, resources)

def dump (resources : Resources) (directory : String) : ExceptT ProgramFault m Unit :=
  ExceptT.mk (Except.mapError .load <$> (resources.dump (m := m) directory).run)

end ChartDialogue.CommandLine
