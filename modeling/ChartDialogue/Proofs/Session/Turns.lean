import ChartDialogue.Files.Tree
import ChartDialogue.Session.Service
import Mathlib.Control.Monad.Basic

/-! # Turns of the router

What can become of a command, one case for each way through it. A case says how the command was
read, what the parser said, and what the turn is then; what is drawn on the way is left open.
-/

namespace ChartDialogue

namespace Router

def bare : Router where
  resources := Resources.build ⟨.null, [], by decide +kernel⟩ StringSet.empty {}

def barQuestion : Json :=
  .array [.string "q", .ofMembers [
    ("utterance", .string "bigger"),
    ("context", .ofMembers [("mark", .string "bar")]),
    ("schema", .null)]]

def lineAcceptance : Json :=
  .array [.string "accept", .ofMembers [
    ("utterance", .string "smaller"),
    ("context", Json.emptyObject),
    ("targetValue", .ofMembers [("mark", .string "line")])]]

/-- What becomes of the commands of a session. -/
inductive Step (router : Router) (sessions : SessionTable) (id : String) : Json → Turn → Prop
  | invalid {command} :
      command? command = none →
      Step router sessions id command { answer := .error (.invalid command), sessions }
  | queryUnread {command payload fault} :
      command? command = some ("q", payload) →
      QueryPayload.decode payload = .error fault →
      Step router sessions id command { answer := .error (.payload "q" fault), sessions }
  | queryWithoutContext {command payload request fault} :
      command? command = some ("q", payload) →
      QueryPayload.decode payload = .ok request →
      router.contextOf "q" payload = .error fault →
      Step router sessions id command {
        answer := .error fault
        sessions := sessions.insert id (sessions.session id) }
  | queryUnparsed {command payload request context asked fault} :
      command? command = some ("q", payload) →
      QueryPayload.decode payload = .ok request →
      router.contextOf "q" payload = .ok context →
      asked = Example.ofUtterance (sessions.session id).id request.utterance context →
      router.parser.parse asked false = .error fault →
      Step router sessions id command {
        answer := .error fault
        sessions := sessions.insert id { sessions.session id with context }
        parsed := [⟨asked, false⟩] }
  | queryAnswered {command payload request context asked parsed} (selected : List Derivation) :
      command? command = some ("q", payload) →
      QueryPayload.decode payload = .ok request →
      router.contextOf "q" payload = .ok context →
      asked = Example.ofUtterance (sessions.session id).id request.utterance context →
      router.parser.parse asked false = .ok parsed →
      Step router sessions id command {
        answer := .ok (parsedResponse parsed selected)
        sessions := sessions.insert id
          ({ sessions.session id with context }.hear parsed.utterance)
        parsed := [⟨asked, false⟩] }
  | randomUnread {command payload fault} :
      command? command = some ("random", payload) →
      RandomPayload.decode payload = .error fault →
      Step router sessions id command { answer := .error (.payload "random" fault), sessions }
  | randomWithoutContext {command payload request fault} :
      command? command = some ("random", payload) →
      RandomPayload.decode payload = .ok request →
      router.contextOf "random" payload = .error fault →
      Step router sessions id command {
        answer := .error fault
        sessions := sessions.insert id (sessions.session id) }
  | randomAnswered {command payload request context} (derivations : List Derivation) :
      command? command = some ("random", payload) →
      RandomPayload.decode payload = .ok request →
      router.contextOf "random" payload = .ok context →
      Step router sessions id command {
        answer := .ok {
          answer := some { Example.ofUtterance (sessions.session id).id "" context with
            derivations }
          stats := { command := "random", size := some derivations.length } }
        sessions := sessions.insert id { sessions.session id with context } }
  | acceptUnread {command payload fault} :
      command? command = some ("accept", payload) →
      AcceptPayload.decode payload = .error fault →
      Step router sessions id command { answer := .error (.payload "accept" fault), sessions }
  | acceptWithoutContext {command payload request fault} :
      command? command = some ("accept", payload) →
      AcceptPayload.decode payload = .ok request →
      router.contextOf "accept" payload = .error fault →
      Step router sessions id command {
        answer := .error fault
        sessions := sessions.insert id (sessions.session id) }
  | acceptUnparsed {command payload request context asked fault} :
      command? command = some ("accept", payload) →
      AcceptPayload.decode payload = .ok request →
      router.contextOf "accept" payload = .ok context →
      asked = { Example.ofUtterance (sessions.session id).id request.utterance context with
        targetValue := some request.targetValue
        targetFormula := request.targetFormula } →
      router.parser.parse asked true = .error fault →
      Step router sessions id command {
        answer := .error fault
        sessions := sessions.insert id (sessions.session id)
        parsed := [⟨asked, true⟩] }
  | accepted {command payload request context asked parsed} :
      command? command = some ("accept", payload) →
      AcceptPayload.decode payload = .ok request →
      router.contextOf "accept" payload = .ok context →
      asked = { Example.ofUtterance (sessions.session id).id request.utterance context with
        targetValue := some request.targetValue
        targetFormula := request.targetFormula } →
      router.parser.parse asked true = .ok parsed →
      Step router sessions id command {
        answer := .ok (.ofCommand "accept")
        sessions := sessions.insert id (sessions.session id)
        parsed := [⟨asked, true⟩]
        learned := if router.options.learnExamples && router.hasLearner then [parsed] else [] }
  | exampleUnread {command payload fault} :
      command? command = some ("example", payload) →
      ExamplePayload.decode payload = .error fault →
      Step router sessions id command { answer := .error (.payload "example" fault), sessions }
  | exampleAnswered {command payload request} (lines : List String) :
      command? command = some ("example", payload) →
      ExamplePayload.decode payload = .ok request →
      Step router sessions id command {
        answer := .ok { Response.ofCommand "example" with lines }
        sessions }
  | ignored {command name payload} :
      command? command = some (name, payload) →
      name ∉ ["q", "random", "accept", "example"] →
      Step router sessions id command { answer := .ok (.ofCommand name), sessions }

variable {σ : Type} [WordSource σ] {router : Router} {sessions : SessionTable} {id : String}
  {command payload : Json}

theorem step_query (named : command? command = some ("q", payload)) (source : σ) :
    Step router sessions id command (router.query sessions id payload source).1 := by
  unfold query
  cases read : QueryPayload.decode payload with
  | error fault => exact .queryUnread named read
  | ok request =>
    cases carried : router.contextOf "q" payload with
    | error fault => exact .queryWithoutContext named read carried
    | ok context =>
      dsimp only
      split
      · exact .queryUnparsed named read carried rfl ‹_›
      · exact .queryAnswered _ named read carried rfl ‹_›

theorem step_random (named : command? command = some ("random", payload)) (source : σ) :
    Step router sessions id command (router.random sessions id payload source).1 := by
  unfold random
  cases read : RandomPayload.decode payload with
  | error fault => exact .randomUnread named read
  | ok request =>
    cases carried : router.contextOf "random" payload with
    | error fault => exact .randomWithoutContext named read carried
    | ok context => exact .randomAnswered _ named read carried

theorem step_accept (named : command? command = some ("accept", payload)) :
    Step router sessions id command (router.accept sessions id payload) := by
  unfold accept
  cases read : AcceptPayload.decode payload with
  | error fault => exact .acceptUnread named read
  | ok request =>
    cases carried : router.contextOf "accept" payload with
    | error fault => exact .acceptWithoutContext named read carried
    | ok context =>
      dsimp only
      split
      · exact .acceptUnparsed named read carried rfl ‹_›
      · exact .accepted named read carried rfl ‹_›

theorem step_examples (named : command? command = some ("example", payload)) (source : σ) :
    Step router sessions id command (router.examples sessions payload source).1 := by
  unfold examples
  cases read : ExamplePayload.decode payload with
  | error fault => exact .exampleUnread named read
  | ok request => exact .exampleAnswered _ named read

theorem step_handle (router : Router) (sessions : SessionTable) (id : String) (command : Json)
    (source : σ) :
    Step router sessions id command (router.handle sessions id command source).1 := by
  cases named : command? command with
  | none =>
    rw [handle, named]
    exact .invalid named
  | some found =>
    rcases found with ⟨name, payload⟩
    unfold handle
    rw [named]
    by_cases isQuery : name = "q"
    · subst isQuery
      exact step_query named source
    by_cases isRandom : name = "random"
    · subst isRandom
      exact step_random named source
    by_cases isAccept : name = "accept"
    · subst isAccept
      exact step_accept named
    by_cases isExample : name = "example"
    · subst isExample
      exact step_examples named source
    simp only
    exact .ignored named (by simp [isQuery, isRandom, isAccept, isExample])

end Router

namespace Service

variable {σ : Type} [WordSource σ]

variable {service : Service} {time : String} {state : ServiceState σ} {id : String}
  {command : Json} {before after : FileTree}

theorem handle_of_unlogged {fault : FileFault}
    (unlogged : service.record (m := StateM FileTree) ⟨command, id, time⟩ before =
      (.error fault, after)) :
    service.handle (m := StateM FileTree) time state id command before =
      (failed state (.log fault), after) := by
  simp only [handle, bind, StateT.bind, unlogged]
  rfl

theorem handle_of_logged
    (logged : service.record (m := StateM FileTree) ⟨command, id, time⟩ before =
      (.ok (), after)) :
    service.handle (m := StateM FileTree) time state id command before =
      (advance state (service.router.handle state.sessions id command), after) := by
  simp only [handle, bind, StateT.bind, logged]
  rfl

end Service

end ChartDialogue
