import ChartDialogue.Resource.Bundle
import ChartDialogue.Session.Parser
import ChartDialogue.Session.Payload
import ChartDialogue.Session.Session
import ChartDialogue.Suggest.Modification

/-! # Routing commands

A command is an array of a name and a payload. The router answers it for the session that sent it.
An unknown name is answered by an empty response; a payload that cannot be read makes only its own
command fail.
-/

namespace ChartDialogue

structure RouterOptions where
  learnExamples : Bool := true
  allowExpressions : Bool := false
  /-- Whether the console can only talk, not evaluate. -/
  onlyInteractive : Bool := false

structure Router where
  resources : Resources
  parser : Parser := .silent
  hasLearner : Bool := false
  options : RouterOptions := {}

structure ParseCall where
  asked : Example
  learning : Bool
deriving DecidableEq

/-- What comes of a command: the answer, the sessions afterwards, and the uses of the parser and
the learner on the way. -/
structure Turn where
  answer : Except CommandFault Response
  sessions : SessionTable
  parsed : List ParseCall := []
  learned : List Example := []

namespace Router

variable {σ : Type} [WordSource σ]

/-- The context that a payload carries. Only objects carry one; for other payloads it is empty. -/
def contextOf (router : Router) (command : String) (payload : Json) :
    Except CommandFault ChartContext :=
  (ChartContext.ofRequest router.resources.strippedKeys payload.membersOrNone).mapError
    (.payload command)

/-! ## The commands -/

def parsedResponse (parsed : Example) (selected : List Derivation) : Response where
  answer := some { parsed with derivations := selected }
  stats := {
    command := "q"
    size := some parsed.derivations.length
    status := some (.ofDerivations parsed.derivations) }

def arrange (shuffled : Bool) (derivations : List Derivation) : Draw σ (List Derivation) :=
  if shuffled then Draw.shuffle derivations else pure derivations

def query (router : Router) (sessions : SessionTable) (id : String) (payload : Json) :
    Draw σ Turn := fun source =>
  match QueryPayload.decode payload with
  | .error fault => ({ answer := .error (.payload "q" fault), sessions }, source)
  | .ok request =>
    let session := sessions.session id
    match router.contextOf "q" payload with
    | .error fault => ({ answer := .error fault, sessions := sessions.insert id session }, source)
    | .ok context =>
      let session := { session with context }
      let asked := Example.ofUtterance session.id request.utterance context
      match router.parser.parse asked false with
      | .error fault =>
        ({ answer := .error fault
           sessions := sessions.insert id session
           parsed := [⟨asked, false⟩] }, source)
      | .ok parsed =>
        let arranged := arrange request.shuffled parsed.derivations source
        let selected := Example.top request.amount arranged.1
        ({ answer := .ok (parsedResponse parsed selected)
           sessions := sessions.insert id (session.hear parsed.utterance)
           parsed := [⟨asked, false⟩] }, arranged.2)

def random (router : Router) (sessions : SessionTable) (id : String) (payload : Json) :
    Draw σ Turn := fun source =>
  match RandomPayload.decode payload with
  | .error fault => ({ answer := .error (.payload "random" fault), sessions }, source)
  | .ok request =>
    let session := sessions.session id
    match router.contextOf "random" payload with
    | .error fault => ({ answer := .error fault, sessions := sessions.insert id session }, source)
    | .ok context =>
      let session := { session with context }
      let asked := Example.ofUtterance session.id "" context
      let suggested := Suggest.suggestions router.resources.engine router.resources.store.templates
        context request.amount source
      ({ answer := .ok {
           answer := some { asked with derivations := suggested.1 }
           stats := { command := "random", size := some suggested.1.length } }
         sessions := sessions.insert id session }, suggested.2)

def accept (router : Router) (sessions : SessionTable) (id : String) (payload : Json) : Turn :=
  match AcceptPayload.decode payload with
  | .error fault => { answer := .error (.payload "accept" fault), sessions }
  | .ok request =>
    let session := sessions.session id
    let sessions := sessions.insert id session
    match router.contextOf "accept" payload with
    | .error fault => { answer := .error fault, sessions }
    | .ok context =>
      let asked := { Example.ofUtterance session.id request.utterance context with
        targetValue := some request.targetValue
        targetFormula := request.targetFormula }
      let calls := [⟨asked, true⟩]
      match router.parser.parse asked true with
      | .error fault => { answer := .error fault, sessions, parsed := calls }
      | .ok parsed =>
        let learns := router.options.learnExamples && router.hasLearner
        { answer := .ok (.ofCommand "accept")
          sessions
          parsed := calls
          learned := if learns then [parsed] else [] }

def examples (router : Router) (sessions : SessionTable) (payload : Json) : Draw σ Turn :=
  fun source =>
    match ExamplePayload.decode payload with
    | .error fault => ({ answer := .error (.payload "example" fault), sessions }, source)
    | .ok request =>
      let arranged := Draw.shuffle router.resources.store.examples source
      let selected := match request.amount with
        | none => arranged.1
        | some amount => arranged.1.take amount
      ({ answer := .ok { Response.ofCommand "example" with
           lines := selected.map fun entry => (Json.object entry).compact }
         sessions }, arranged.2)

/-! ## Commands and lines -/

/-- The name and the payload of a command; a missing payload is null. -/
def command? : Json → Option (String × Json)
  | .array [.string name] => some (name, .null)
  | .array (.string name :: payload :: _) => some (name, payload)
  | _ => none

def handle (router : Router) (sessions : SessionTable) (id : String) (command : Json) :
    Draw σ Turn :=
  match command? command with
  | none => pure { answer := .error (.invalid command), sessions }
  | some ("q", payload) => router.query sessions id payload
  | some ("random", payload) => router.random sessions id payload
  | some ("accept", payload) => pure (router.accept sessions id payload)
  | some ("example", payload) => router.examples sessions payload
  | some (name, _) => pure { answer := .ok (.ofCommand name), sessions }

inductive Input where
  | expression (text : String)
  | command (value : Json)

def allowsExpressions (router : Router) (id : String) : Bool :=
  if id = Session.console then ¬ router.options.onlyInteractive
  else router.options.allowExpressions

def consoleField (name type : String) (uniqueCount : Nat) : String × Json :=
  (name, (DataField.encode {
    name, type
    uniqueCount := some uniqueCount
    count := some 9
    probablyYears := false
    source := true }))

/-- The command for a line that was typed into the console: a question about a table of two
columns. -/
def consoleQuestion (line : String) : Json :=
  .array [.string "q", .ofMembers [
    ("utterance", .string line),
    ("context", Json.emptyObject),
    ("schema", .ofMembers [consoleField "a" "string" 3, consoleField "b" "integer" 6])]]

/-- What a line asks for. The console talks in plain words, other sessions in commands. -/
def readLine (router : Router) (id line : String) : Except CommandFault Input :=
  let line := Text.trim line
  if router.allowsExpressions id && line.toList.head? == some '(' then .ok (.expression line)
  else if id = Session.console then .ok (.command (consoleQuestion line))
  else match Json.parse line with
    | .ok value => .ok (.command value)
    | .error error => .error (.line error)

def answer (router : Router) (sessions : SessionTable) (id : String) (input : Input) :
    Draw σ Turn :=
  match input with
  | .expression text => pure { answer := router.parser.evaluate id text, sessions }
  | .command value => router.handle sessions id value

end Router

end ChartDialogue
