import ChartDialogue.Proofs.Session.Turns

/-! # What a turn leaves in the session table

Only the session that sent a command can change. It is opened by a payload that can be read, its
context is that of the latest `q` or `random` that carries one, and it counts the utterances that
were parsed. None of this is taken back when the command fails afterwards.
-/

namespace ChartDialogue

def Session.install (session : Session) (context : Option ChartContext) : Session :=
  { session with context := context.getD session.context }

def Session.hear? (session : Session) : Option String → Session
  | none => session
  | some utterance => session.hear utterance

namespace Router

/-- Whether a command opens a session: its payload can be read, whatever becomes of it then. -/
def opens (command : Json) : Bool :=
  match command? command with
  | some ("q", payload) => (QueryPayload.decode payload).isOk
  | some ("random", payload) => (RandomPayload.decode payload).isOk
  | some ("accept", payload) => (AcceptPayload.decode payload).isOk
  | _ => false

def installs? (router : Router) (command : Json) : Option ChartContext :=
  match command? command with
  | some ("q", payload) =>
    if (QueryPayload.decode payload).isOk then (router.contextOf "q" payload).toOption else none
  | some ("random", payload) =>
    if (RandomPayload.decode payload).isOk then (router.contextOf "random" payload).toOption
    else none
  | _ => none

def heard? (command : Json) (turn : Turn) : Option String :=
  match command? command, turn.answer with
  | some ("q", _), .ok response => response.answer.map (·.utterance)
  | _, _ => none

variable {router : Router} {sessions : SessionTable} {id : String} {command : Json} {turn : Turn}

theorem sessions_of_step (step : Step router sessions id command turn) :
    turn.sessions =
      if opens command then
        sessions.insert id
          (((sessions.session id).install (router.installs? command)).hear? (heard? command turn))
      else sessions := by
  cases step with
  | invalid unnamed => simp [opens, unnamed]
  | queryUnread named unread | randomUnread named unread | acceptUnread named unread =>
    simp [opens, named, unread, Except.isOk, Except.toBool]
  | queryWithoutContext named read carried | queryUnparsed named read carried
  | queryAnswered _ named read carried | randomWithoutContext named read carried
  | randomAnswered _ named read carried =>
    simp [opens, installs?, heard?, named, read, carried, Except.isOk, Except.toBool,
      Except.toOption, Session.install, Session.hear?, parsedResponse]
  | acceptWithoutContext named read | acceptUnparsed named read | accepted named read =>
    simp [opens, installs?, heard?, named, read, Except.isOk, Except.toBool, Session.install,
      Session.hear?]
  | exampleUnread named | exampleAnswered _ named => simp [opens, named]
  | ignored named unknown =>
    simp only [List.mem_cons, List.not_mem_nil, or_false, not_or] at unknown
    simp [opens, named, unknown]

theorem heard?_of_error {fault : CommandFault} (failed : turn.answer = .error fault) :
    heard? command turn = none := by
  unfold heard?
  rw [failed]
  split <;> simp_all

end Router

namespace Service

variable {σ : Type} [WordSource σ]

/-- A command that fails leaves all other sessions alone. Its own session is opened if the command
was logged and its payload can be read, and then has the context that the command installs; what it
heard before stays. -/
theorem sessions_of_failed (service : Service) (time : String) (state : ServiceState σ)
    (id : String) (command : Json) (tree : FileTree) {fault : CommandFault}
    (failed : (service.handle (m := StateM FileTree) time state id command tree).1.1.answer =
      .error fault) :
    let logged := (service.record (m := StateM FileTree) ⟨command, id, time⟩ tree).1.isOk
    let after := (service.handle (m := StateM FileTree) time state id command tree).1.2.sessions
    (∀ other, other ≠ id → after.find? other = state.sessions.find? other) ∧
      after.find? id =
        if logged ∧ Router.opens command then
          some ((state.sessions.session id).install (service.router.installs? command))
        else state.sessions.find? id := by
  intro logged after
  cases recorded : service.record (m := StateM FileTree) ⟨command, id, time⟩ tree with
  | mk outcome written =>
    cases outcome with
    | error unlogged =>
      have unchanged : after = state.sessions := by
        simp only [after, handle_of_unlogged recorded]
        rfl
      simp [unchanged, logged, recorded, Except.isOk, Except.toBool]
    | ok _ =>
      have turned :
          service.handle (m := StateM FileTree) time state id command tree =
            (advance state (service.router.handle state.sessions id command), written) :=
        handle_of_logged recorded
      have step := service.router.step_handle state.sessions id command state.source
      have unheard : Router.heard? command
          (service.router.handle state.sessions id command state.source).1 = none := by
        rw [turned] at failed
        exact Router.heard?_of_error failed
      have table : after =
          if Router.opens command then
            state.sessions.insert id
              ((state.sessions.session id).install (service.router.installs? command))
          else state.sessions := by
        have result := Router.sessions_of_step step
        rw [unheard] at result
        simp only [after, turned]
        exact result
      have isLogged : logged = true := by simp [logged, recorded, Except.isOk, Except.toBool]
      rw [table, isLogged]
      by_cases opens : Router.opens command = true
      · simp only [opens, if_true, and_self, StringMap.find?_insert_self, and_true]
        exact fun other different => state.sessions.find?_insert_of_ne _ different
      · simp [opens]

def unparsing : Service where
  router := { Router.bare with parser := { parse := fun _ _ => .error (.parser "down") } }

theorem sessions_of_unparsed_question :
    (((unparsing.handle (m := StateM FileTree) "" { source := (⟨0⟩ : MixedCounter) } "s1"
      Router.barQuestion (.empty "/")).1.2.sessions.find? "s1").map (·.context.plot)) =
        some (.ofMembers [("mark", .string "bar")]) := by
  have failed : (unparsing.handle (m := StateM FileTree) "" { source := (⟨0⟩ : MixedCounter) }
      "s1" Router.barQuestion (.empty "/")).1.1.answer = .error (.parser "down") := rfl
  have outcome := (sessions_of_failed unparsing "" { source := (⟨0⟩ : MixedCounter) } "s1"
    Router.barQuestion (.empty "/") failed).2
  rw [outcome]
  decide +kernel

/-- A failed question opens a session and leaves its chart there; a question with a data schema
that is none opens one with no chart. -/
theorem failed_question_changes_sessions :
    let before : ServiceState MixedCounter := { source := ⟨0⟩ }
    let unparsed := (unparsing.handle (m := StateM FileTree) "" before "s1" Router.barQuestion
      (.empty "/")).1
    let unread := (unparsing.handle (m := StateM FileTree) "" before "s1"
      (.array [.string "q", .ofMembers [
        ("utterance", .string "x"), ("context", Json.emptyObject),
        ("schema", .ofMembers [("a", .ofNat 3)])]]) (.empty "/")).1
    before.sessions.find? "s1" = none ∧
      unparsed.1.answer.isOk = false ∧
      unparsed.2.sessions.find? "s1" =
        some { id := "s1", context := ⟨.ofMembers [("mark", .string "bar")], .empty⟩ } ∧
      unread.1.answer.isOk = false ∧
      unread.2.sessions.find? "s1" = some { id := "s1" } := by
  decide +kernel

end Service

end ChartDialogue
