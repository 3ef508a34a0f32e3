import ChartDialogue.CommandLine.Outcome
import ChartDialogue.Grammar.PathSearch

/-! # The path tool

Looks into a grammar: dumps its resources, searches its paths, checks values and draws them.
-/

namespace ChartDialogue.CommandLine.PathTool

inductive Task where
  | dump (directory : Option String)
  | search (query : String) (limit : Nat)
  | check (path value tag : String)
  | values (path : String) (draws : Nat)
deriving DecidableEq

structure Request where
  config : Option String
  task : Task
deriving DecidableEq

/-! ## Arguments -/

def outputOption : OptionName := ⟨'o', "output"⟩
def limitOption : OptionName := ⟨'l', "limit"⟩
def tagOption : OptionName := ⟨'t', "tag"⟩
def drawsOption : OptionName := ⟨'d', "draws"⟩

def subcommands : List String := ["dump", "search", "check", "values"]

def usage : String :=
  "Usage: vega-paths [--config CONFIG] (dump | search QUERY | check PATH VALUE | values PATH)\n"

def exactly (wanted : List String) (given : List String) : Except UsageFault (List String) :=
  if given.length < wanted.length then
    .error (.missing (String.intercalate " " (wanted.drop given.length)))
  else match given.drop wanted.length with
    | [] => .ok given
    | extra :: _ => .error (.unknown extra)

def dumpTask (arguments : List String) : Except UsageFault Task := do
  let sorted ← sort [outputOption] false {} arguments
  let _ ← exactly [] sorted.positionals
  match sorted.option? outputOption with
  | some "" => throw (.noValue outputOption.long)
  | directory => return .dump directory

def searchTask (arguments : List String) : Except UsageFault Task := do
  let sorted ← sort [limitOption] false {} arguments
  let values ← exactly ["QUERY"] sorted.positionals
  return .search (values.head?.getD "") (← sorted.count limitOption 10)

def checkTask (arguments : List String) : Except UsageFault Task := do
  let sorted ← sort [tagOption] false {} arguments
  let values ← exactly ["PATH", "VALUE"] sorted.positionals
  let tag := (sorted.option? tagOption).getD "string"
  return .check (values.head?.getD "") (values[1]?.getD "") tag

def valuesTask (arguments : List String) : Except UsageFault Task := do
  let sorted ← sort [drawsOption] false {} arguments
  let values ← exactly ["PATH"] sorted.positionals
  return .values (values.head?.getD "") (← sorted.count drawsOption 5)

def task : List String → Except UsageFault Task
  | [] => .error (.missing "COMMAND")
  | "dump" :: rest => dumpTask rest
  | "search" :: rest => searchTask rest
  | "check" :: rest => checkTask rest
  | "values" :: rest => valuesTask rest
  | ["help"] => .error .help
  | ["help", name] => if subcommands.contains name then .error .help else .error (.unknown name)
  | name :: _ => .error (.unknown name)

def parse (arguments : List String) : Except UsageFault Request := do
  let sorted ← sort [configOption] true {} arguments
  return ⟨sorted.option? configOption, ← task sorted.unread⟩

/-! ## Tasks -/

variable {m : Type → Type} [Monad m] [FileAccess m] {σ : Type} [WordSource σ]

def matchLine (found : PathMatch) : String :=
  let score := renderInteger found.score
  String.ofList (List.replicate (5 - score.length) ' ' ++ score) ++ "  " ++
    found.path.dotted ++ "\n"

/-- The literal a text stands for: a JSON value, or else the text itself. -/
def literal (text : String) : Json :=
  match Json.parse text with
  | .ok value => value
  | .error _ => .string text

def checkOutput (engine : Engine) (path value tag : String) : Except ProgramFault String :=
  match Tag.ofName? tag with
  | none => .error (.unknownTag tag)
  | some tag =>
    match engine.check (SimplePath.ofDotted path).segments ⟨literal value, tag⟩ with
    | .ok accepted => .ok (if accepted then "✅ accepted\n" else "❌ rejected\n")
    | .error fault => .error (.check fault)

def drawnLine : Option TypedValue → String
  | some value => value.display ++ "\n"
  | none => "(nothing)\n"

def drawLines (engine : Engine) (query : List String) : (draws : Nat) → Draw σ String
  | 0 => pure ""
  | draws + 1 => fun source =>
    let drawn := engine.draw? query source
    let others := drawLines engine query draws drawn.2
    (drawnLine drawn.1 ++ others.1, others.2)

def dumpDirectory (given : Option String) (settings : Settings) :
    ExceptT ProgramFault m String := do
  let current ← FileAccess.currentDirectory (m := m)
  match given.or (settings.dumpDirectory? current) with
  | some directory => return directory
  | none => throw .noDumpDirectory

def output (surroundings : Surroundings) (source : σ) (request : Request) :
    ExceptT ProgramFault m String := do
  let (settings, resources) ← prepare surroundings request.config
  match request.task with
  | .dump given =>
    let directory ← dumpDirectory given settings
    dump resources directory
    return "✅ Wrote dumps to " ++ directory ++ "\n"
  | .search query limit =>
    return String.join ((resources.paths.search query limit).map matchLine)
  | .check path value tag => ExceptT.mk (pure (checkOutput resources.engine path value tag))
  | .values path draws =>
    return (drawLines resources.engine (SimplePath.ofDotted path).segments draws source).1

def run (surroundings : Surroundings) (source : σ) (arguments : List String) : m Outcome :=
  match parse arguments with
  | .error fault => return .ofUsage usage fault
  | .ok request => Outcome.ofResult <$> (output surroundings source request).run

end ChartDialogue.CommandLine.PathTool
