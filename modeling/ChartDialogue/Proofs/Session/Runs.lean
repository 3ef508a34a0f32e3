import ChartDialogue.Proofs.Session.Turns

/-! # Runs of commands

Commands that arrive one after the other, for any sessions, and what becomes of each. A parser is
not bound to say the same twice, so every call comes with the parser as it is then. When every
command can be logged, the log has no part in what becomes of them.
-/

namespace ChartDialogue

structure Call where
  time : String
  session : String
  command : Json
  /-- The parser, as it is when the command arrives. -/
  parser : Parser

def Router.withParser (router : Router) (parser : Parser) : Router := { router with parser }

namespace Service

variable {σ : Type} [WordSource σ]

def withParser (service : Service) (parser : Parser) : Service :=
  { service with router := service.router.withParser parser }

def handleAll (service : Service) : (calls : List Call) → (state : ServiceState σ) →
    StateM FileTree (List (Call × Turn) × ServiceState σ)
  | [], state => pure ([], state)
  | call :: rest, state => do
    let (turn, state) ←
      (service.withParser call.parser).handle call.time state call.session call.command
    let (history, state) ← service.handleAll rest state
    return ((call, turn) :: history, state)

theorem handleAll_cons {service : Service} {call : Call} (rest : List Call)
    {state : ServiceState σ} {tree after : FileTree} {turned : Turn × ServiceState σ}
    (handled : (service.withParser call.parser).handle (m := StateM FileTree) call.time state
      call.session call.command tree = (turned, after)) :
    service.handleAll (call :: rest) state tree =
      let done := service.handleAll rest turned.2 after
      (((call, turned.1) :: done.1.1, done.1.2), done.2) := by
  simp only [handleAll, bind, StateT.bind, handled]
  rfl

def LogsAll (service : Service) : List Call → FileTree → Prop
  | [], _ => True
  | call :: rest, tree => ∃ after,
    service.record (m := StateM FileTree) ⟨call.command, call.session, call.time⟩ tree =
      (.ok (), after) ∧ service.LogsAll rest after

theorem logsAll_of_no_log {service : Service} (silent : service.queryLog = none)
    (calls : List Call) (tree : FileTree) : service.LogsAll calls tree := by
  induction calls with
  | nil => trivial
  | cons call rest induction =>
    refine ⟨tree, ?_, induction⟩
    unfold record
    rw [silent]
    rfl

end Service

namespace Router

variable {σ : Type} [WordSource σ]

def handleCall (router : Router) (state : ServiceState σ) (call : Call) : Turn × ServiceState σ :=
  Service.advance state
    ((router.withParser call.parser).handle state.sessions call.session call.command)

theorem sessions_handleCall (router : Router) (state : ServiceState σ) (call : Call) :
    (router.handleCall state call).2.sessions = (router.handleCall state call).1.sessions :=
  rfl

theorem step_handleCall (router : Router) (state : ServiceState σ) (call : Call) :
    Step (router.withParser call.parser) state.sessions call.session call.command
      (router.handleCall state call).1 :=
  step_handle _ _ _ _ state.source

def handleAll (router : Router) : (calls : List Call) → (state : ServiceState σ) →
    List (Call × Turn) × ServiceState σ
  | [], state => ([], state)
  | call :: rest, state =>
    let turned := router.handleCall state call
    let done := router.handleAll rest turned.2
    ((call, turned.1) :: done.1, done.2)

theorem map_fst_handleAll (router : Router) (calls : List Call) (state : ServiceState σ) :
    (router.handleAll calls state).1.map (·.1) = calls := by
  induction calls generalizing state with
  | nil => rfl
  | cons call rest induction =>
    rw [handleAll, List.map_cons, induction]

end Router

theorem Service.handleAll_of_logsAll {σ : Type} [WordSource σ] {service : Service}
    {calls : List Call} {tree : FileTree} (logged : service.LogsAll calls tree)
    (state : ServiceState σ) :
    (service.handleAll calls state tree).1 = service.router.handleAll calls state := by
  induction calls generalizing state tree with
  | nil => rfl
  | cons call rest induction =>
    rcases logged with ⟨after, recorded, logged⟩
    have handled : (service.withParser call.parser).handle (m := StateM FileTree) call.time state
        call.session call.command tree = (service.router.handleCall state call, after) :=
      handle_of_logged recorded
    rw [Router.handleAll, ← induction logged (service.router.handleCall state call).2,
      handleAll_cons rest handled]

/-! ## Commands that cannot be logged -/

namespace Service

variable {σ : Type} [WordSource σ]

def loggedCalls (service : Service) : List Call → FileTree → List Call
  | [], _ => []
  | call :: rest, tree =>
    match service.record (m := StateM FileTree) ⟨call.command, call.session, call.time⟩ tree with
    | (.ok _, after) => call :: service.loggedCalls rest after
    | (.error _, after) => service.loggedCalls rest after

theorem loggedCalls_sublist (service : Service) (calls : List Call) (tree : FileTree) :
    (service.loggedCalls calls tree).Sublist calls := by
  induction calls generalizing tree with
  | nil => exact .slnil
  | cons call rest induction =>
    rw [loggedCalls]
    split
    · exact (induction _).cons_cons call
    · exact (induction _).cons call

theorem calls_handleAll (service : Service) (calls : List Call) (state : ServiceState σ)
    (tree : FileTree) : (service.handleAll calls state tree).1.1.map (·.1) = calls := by
  induction calls generalizing state tree with
  | nil => rfl
  | cons call rest induction => exact congrArg (call :: ·) (induction _ _)

/-- Of commands that cannot be logged no trace is left in a run, whatever is gathered from it that
faults of the log have no part in. -/
theorem flatMap_handleAll {β : Type} (service : Service) {gather : Call × Turn → List β}
    (unlogged : ∀ call fault sessions,
      gather (call, { answer := .error (.log fault), sessions }) = [])
    (calls : List Call) (state : ServiceState σ) (tree : FileTree) :
    (service.handleAll calls state tree).1.1.flatMap gather =
      (service.router.handleAll (service.loggedCalls calls tree) state).1.flatMap gather := by
  induction calls generalizing state tree with
  | nil => rfl
  | cons call rest induction =>
    cases recorded : service.record (m := StateM FileTree)
        ⟨call.command, call.session, call.time⟩ tree with
    | mk outcome after =>
      cases outcome with
      | error fault =>
        have handled : (service.withParser call.parser).handle (m := StateM FileTree) call.time
            state call.session call.command tree = (failed state (.log fault), after) :=
          handle_of_unlogged recorded
        rw [loggedCalls, recorded, ← induction state after, handleAll_cons rest handled,
          List.flatMap_cons]
        exact congrArg (· ++ _) (unlogged call fault state.sessions)
      | ok _ =>
        have handled : (service.withParser call.parser).handle (m := StateM FileTree) call.time
            state call.session call.command tree = (service.router.handleCall state call, after) :=
          handle_of_logged recorded
        rw [loggedCalls, recorded, Router.handleAll, List.flatMap_cons,
          ← induction (service.router.handleCall state call).2 after, handleAll_cons rest handled,
          List.flatMap_cons]

end Service

end ChartDialogue
