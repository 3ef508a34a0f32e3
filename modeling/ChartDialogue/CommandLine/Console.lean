import ChartDialogue.CommandLine.Outcome
import ChartDialogue.Session.Service

/-! # The console

Answers the lines of its input one by one. Blank lines are passed over; a line that fails is
reported, and the console goes on.
-/

namespace ChartDialogue.CommandLine.Console

structure Request where
  config : Option String
  session : String
deriving DecidableEq

def sessionOption : OptionName := ⟨'s', "session"⟩

def usage : String := "Usage: vega-console [--config CONFIG] [--session SESSION]\n"

def parse (arguments : List String) : Except UsageFault Request := do
  let sorted ← sort [configOption, sessionOption] false {} arguments
  match sorted.positionals with
  | [] =>
    return {
      config := sorted.option? configOption
      session := (sorted.option? sessionOption).getD Session.console }
  | extra :: _ => throw (.unknown extra)

variable {m : Type → Type} [Monad m] [FileAccess m] {σ : Type} [WordSource σ]

def start (surroundings : Surroundings) (request : Request) : ExceptT ProgramFault m Service := do
  let (settings, resources) ← prepare surroundings request.config
  match settings.dumpDirectory? (← FileAccess.currentDirectory (m := m)) with
  | some directory => dump resources directory
  | none => pure ()
  let service := Service.ofSettings settings resources .silent
  ExceptT.mk (Except.mapError .log <$> (service.start (m := m)).run)
  return service

def report : Except CommandFault Response → Outcome
  | .ok response => { output := response.outline.lines ++ "\n" }
  | .error fault => { errors := errorLine fault.message }

def answer (service : Service) (session time : String) (state : ServiceState σ) (line : String) :
    m (Outcome × ServiceState σ) := do
  if (Text.trim line).isEmpty then return ({}, state)
  else
    let (turn, state) ← service.process time state session line
    return (report turn.answer, state)

def answerAll (service : Service) (session time : String) :
    ServiceState σ → List String → m Outcome
  | _, [] => return {}
  | state, line :: rest => do
    let (first, state) ← answer service session time state line
    let others ← answerAll service session time state rest
    return {
      code := others.code
      output := first.output ++ others.output
      errors := first.errors ++ others.errors }

/-- Run the console on an input that is known from the start. -/
def run (surroundings : Surroundings) (source : σ) (time : String) (arguments : List String)
    (input : String) : m Outcome := do
  match parse arguments with
  | .error fault => return .ofUsage usage fault
  | .ok request =>
    match ← (start surroundings request).run with
    | .error fault => return .ofFault fault
    | .ok service => answerAll service request.session time { source } (Text.lines input)

end ChartDialogue.CommandLine.Console
