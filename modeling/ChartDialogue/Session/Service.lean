import ChartDialogue.Session.Router

/-! # The service

A router with the sessions it has seen, and the file that its query log is kept in. A command is
logged before anything else is done; if that fails, nothing else is done.
-/

namespace ChartDialogue

structure ServiceState (σ : Type) where
  sessions : SessionTable := StringMap.empty
  source : σ

structure Service where
  router : Router
  queryLog : Option String := none

namespace Service

def ofSettings (settings : Settings) (resources : Resources) (parser : Parser) : Service where
  router := {
    resources, parser
    options := {
      learnExamples := settings.learning.learnExamples
      allowExpressions := settings.session.allowExpressions
      onlyInteractive := settings.session.onlyInteractive } }
  queryLog := settings.log.queryLog

variable {σ : Type} [WordSource σ] {m : Type → Type} [Monad m] [FileAccess m]

def openLog (name : String) : ExceptT FileFault m Unit := do
  match FileName.parent? name with
  | none => pure ()
  | some directory => ExceptT.mk (FileAccess.makeDirectories directory)
  ExceptT.mk (FileAccess.append name "")

def start (service : Service) : ExceptT FileFault m Unit :=
  match service.queryLog with
  | none => pure ()
  | some name => openLog name

def record (service : Service) (entry : QueryLog.Entry) : m (Except FileFault Unit) :=
  match service.queryLog with
  | none => return .ok ()
  | some name => FileAccess.append name entry.line

def advance (state : ServiceState σ) (turn : Draw σ Turn) : Turn × ServiceState σ :=
  let done := turn state.source
  (done.1, ⟨done.1.sessions, done.2⟩)

def failed (state : ServiceState σ) (fault : CommandFault) : Turn × ServiceState σ :=
  ({ answer := .error fault, sessions := state.sessions }, state)

def handle (service : Service) (time : String) (state : ServiceState σ) (id : String)
    (command : Json) : m (Turn × ServiceState σ) := do
  match ← service.record ⟨command, id, time⟩ with
  | .error fault => return failed state (.log fault)
  | .ok _ => return advance state (service.router.handle state.sessions id command)

def process (service : Service) (time : String) (state : ServiceState σ) (id line : String) :
    m (Turn × ServiceState σ) :=
  match service.router.readLine id line with
  | .error fault => return failed state fault
  | .ok (.expression text) =>
    return advance state (service.router.answer state.sessions id (.expression text))
  | .ok (.command value) => service.handle time state id value

end Service

end ChartDialogue
