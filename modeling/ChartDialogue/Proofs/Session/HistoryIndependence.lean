import ChartDialogue.Proofs.Session.SessionHistory

/-! # Answers do not depend on what came before

A command brings its own context, and all that a turn takes from the session is the id. As every
session is kept under its id, a command comes to the same in any two states that a service can be
in: the same answer, the same uses of the parser and of the learner, and the same words drawn. Only
what is kept of it differs.
-/

namespace ChartDialogue

structure Turn.ShowsSame (first second : Turn) : Prop where
  answer : first.answer = second.answer
  parsed : first.parsed = second.parsed
  learned : first.learned = second.learned

namespace Router

variable {σ : Type} [WordSource σ]

def ComesToSame (first second : Turn × σ) : Prop :=
  first.1.ShowsSame second.1 ∧ first.2 = second.2

/-! ## One turn -/

section Turns

variable {sessions others : SessionTable} {id : String}

theorem query_comesToSame (router : Router)
    (sameId : (sessions.session id).id = (others.session id).id) (payload : Json) (source : σ) :
    ComesToSame (router.query sessions id payload source)
      (router.query others id payload source) := by
  unfold query
  cases QueryPayload.decode payload with
  | error fault => exact ⟨⟨rfl, rfl, rfl⟩, rfl⟩
  | ok request =>
    cases router.contextOf "q" payload with
    | error fault => exact ⟨⟨rfl, rfl, rfl⟩, rfl⟩
    | ok context =>
      -- The context is the payload's own by now, and the session gives no more than its id.
      dsimp only
      rw [sameId]
      cases router.parser.parse
          (Example.ofUtterance (others.session id).id request.utterance context) false with
      | error fault => exact ⟨⟨rfl, rfl, rfl⟩, rfl⟩
      | ok parsed => exact ⟨⟨rfl, rfl, rfl⟩, rfl⟩

theorem random_comesToSame (router : Router)
    (sameId : (sessions.session id).id = (others.session id).id) (payload : Json) (source : σ) :
    ComesToSame (router.random sessions id payload source)
      (router.random others id payload source) := by
  unfold random
  cases RandomPayload.decode payload with
  | error fault => exact ⟨⟨rfl, rfl, rfl⟩, rfl⟩
  | ok request =>
    cases router.contextOf "random" payload with
    | error fault => exact ⟨⟨rfl, rfl, rfl⟩, rfl⟩
    | ok context =>
      dsimp only
      rw [sameId]
      exact ⟨⟨rfl, rfl, rfl⟩, rfl⟩

theorem accept_showsSame (router : Router)
    (sameId : (sessions.session id).id = (others.session id).id) (payload : Json) :
    (router.accept sessions id payload).ShowsSame (router.accept others id payload) := by
  unfold accept
  cases AcceptPayload.decode payload with
  | error fault => exact ⟨rfl, rfl, rfl⟩
  | ok request =>
    cases router.contextOf "accept" payload with
    | error fault => exact ⟨rfl, rfl, rfl⟩
    | ok context =>
      dsimp only
      rw [sameId]
      split
      · exact ⟨rfl, rfl, rfl⟩
      · exact ⟨rfl, rfl, rfl⟩

theorem examples_comesToSame (router : Router) (sessions others : SessionTable) (payload : Json)
    (source : σ) :
    ComesToSame (router.examples sessions payload source)
      (router.examples others payload source) := by
  unfold examples
  cases ExamplePayload.decode payload with
  | error fault => exact ⟨⟨rfl, rfl, rfl⟩, rfl⟩
  | ok request => exact ⟨⟨rfl, rfl, rfl⟩, rfl⟩

theorem handle_comesToSame (router : Router)
    (sameId : (sessions.session id).id = (others.session id).id) (command : Json) (source : σ) :
    ComesToSame (router.handle sessions id command source)
      (router.handle others id command source) := by
  unfold handle
  cases command? command with
  | none => exact ⟨⟨rfl, rfl, rfl⟩, rfl⟩
  | some found =>
    rcases found with ⟨name, payload⟩
    by_cases isQuery : name = "q"
    · subst isQuery
      exact query_comesToSame router sameId payload source
    by_cases isRandom : name = "random"
    · subst isRandom
      exact random_comesToSame router sameId payload source
    by_cases isAccept : name = "accept"
    · subst isAccept
      exact ⟨accept_showsSame router sameId payload, rfl⟩
    by_cases isExample : name = "example"
    · subst isExample
      exact examples_comesToSame router sessions others payload source
    simp only
    exact ⟨⟨rfl, rfl, rfl⟩, rfl⟩

end Turns

end Router

/-! ## States that a service can be in -/

namespace Service

/-- The sessions that a service can have: it starts with none, and answers commands and lines.
From one of them to the next, the files and the random source can change, and so can what the parser
finds. -/
inductive Reachable (service : Service) : SessionTable → Prop
  | fresh : Reachable service StringMap.empty
  | handled {σ : Type} [WordSource σ] {sessions : SessionTable} (source : σ) (parser : Parser)
      (time id : String) (command : Json) (tree : FileTree) :
      Reachable service sessions →
      Reachable service ((service.withParser parser).handle (m := StateM FileTree) time
        ⟨sessions, source⟩ id command tree).1.2.sessions
  | processed {σ : Type} [WordSource σ] {sessions : SessionTable} (source : σ) (parser : Parser)
      (time id line : String) (tree : FileTree) :
      Reachable service sessions →
      Reachable service ((service.withParser parser).process (m := StateM FileTree) time
        ⟨sessions, source⟩ id line tree).1.2.sessions

variable {σ : Type} [WordSource σ] {service : Service}

theorem reachable_handleAll (calls : List Call) {state : ServiceState σ} (tree : FileTree)
    (reached : service.Reachable state.sessions) :
    service.Reachable (service.handleAll calls state tree).1.2.sessions := by
  induction calls generalizing state tree with
  | nil => exact reached
  | cons call rest induction =>
    exact induction _ (.handled state.source call.parser call.time call.session call.command tree
      reached)

theorem named_handle (service : Service) {state : ServiceState σ}
    (named : state.sessions.Named) (time id : String) (command : Json) (tree : FileTree) :
    (service.handle (m := StateM FileTree) time state id command tree).1.2.sessions.Named := by
  cases recorded : service.record (m := StateM FileTree) ⟨command, id, time⟩ tree with
  | mk outcome after =>
    cases outcome with
    | error fault =>
      rw [handle_of_unlogged recorded]
      exact named
    | ok _ =>
      rw [handle_of_logged recorded]
      exact Router.named_of_step (service.router.step_handle _ id command state.source) named

theorem named_process (service : Service) {state : ServiceState σ}
    (named : state.sessions.Named) (time id line : String) (tree : FileTree) :
    (service.process (m := StateM FileTree) time state id line tree).1.2.sessions.Named := by
  unfold process
  cases service.router.readLine id line with
  | error fault => exact named
  | ok input =>
    cases input with
    | expression text => exact named
    | command value => exact named_handle service named time id value tree

theorem Reachable.named {sessions : SessionTable} (reached : service.Reachable sessions) :
    sessions.Named := by
  induction reached with
  | fresh => exact SessionTable.named_empty
  | handled source parser time id command tree _ named =>
    exact named_handle (service.withParser parser) named time id command tree
  | processed source parser time id line tree _ named =>
    exact named_process (service.withParser parser) named time id line tree

/-- In any two states that services with the same router can be in, a command that is logged comes
to the same: it gets the same answer, puts the same to the parser and to the learner, and draws the
same words. -/
theorem answer_of_reachable {first second : Service} (sameRouter : first.router = second.router)
    {sessions others : SessionTable} (reached : first.Reachable sessions)
    (otherReached : second.Reachable others) (source : σ) (id : String) (command : Json)
    {time otherTime : String} {tree after otherTree otherAfter : FileTree}
    (logged : first.record (m := StateM FileTree) ⟨command, id, time⟩ tree = (.ok (), after))
    (otherLogged : second.record (m := StateM FileTree) ⟨command, id, otherTime⟩ otherTree =
      (.ok (), otherAfter)) :
    let here := (first.handle (m := StateM FileTree) time ⟨sessions, source⟩ id command tree).1
    let there :=
      (second.handle (m := StateM FileTree) otherTime ⟨others, source⟩ id command otherTree).1
    here.1.ShowsSame there.1 ∧ here.2.source = there.2.source := by
  intro here there
  have sameId : (sessions.session id).id = (others.session id).id := by
    rw [reached.named.session, otherReached.named.session]
  have turned : here = advance ⟨sessions, source⟩ (first.router.handle sessions id command) := by
    simp only [here, handle_of_logged logged]
  have otherTurned : there = advance ⟨others, source⟩ (first.router.handle others id command) := by
    simp only [there, handle_of_logged otherLogged, sameRouter]
  rw [turned, otherTurned]
  exact first.router.handle_comesToSame sameId command source

/-- A session that has asked about a bar chart teaches the same as one that has not: nothing of the
bar chart is in what it accepts. -/
theorem answer_after_question :
    let service : Service := { router := { Router.bare with hasLearner := true } }
    let asked := (service.handleAll [⟨"", "s1", Router.barQuestion, .silent⟩]
      { source := (⟨0⟩ : MixedCounter) } (.empty "/")).1.2.sessions
    let turn (sessions : SessionTable) := (service.handle (m := StateM FileTree) ""
      ⟨sessions, (⟨0⟩ : MixedCounter)⟩ "s1" Router.lineAcceptance (.empty "/")).1.1
    asked.contains "s1" = true ∧ (turn asked).ShowsSame (turn StringMap.empty) ∧
      (turn asked).learned.map (·.context) = [.empty] := by
  intro service asked turn
  have reached : service.Reachable asked := reachable_handleAll _ _ .fresh
  have logged : service.record (m := StateM FileTree) ⟨Router.lineAcceptance, "s1", ""⟩
      (.empty "/") = (.ok (), .empty "/") := rfl
  refine ⟨by decide +kernel, ?_, by decide +kernel⟩
  exact (answer_of_reachable rfl reached .fresh (⟨0⟩ : MixedCounter) "s1" Router.lineAcceptance
    logged logged).1

end Service

end ChartDialogue
