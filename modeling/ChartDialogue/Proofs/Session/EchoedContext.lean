import ChartDialogue.Proofs.Chart.RestoredRecords
import ChartDialogue.Proofs.Session.CarriedContext
import ChartDialogue.Proofs.Session.Runs
import ChartDialogue.Proofs.Session.SessionTable

/-! # Contexts that are sent back

A context that was made of a request has lost the members that are dropped, and holds what its data
schema was read as. Sent back as it is written, it makes the same context again. So a client can
send back what it was shown as often as it likes: its session keeps the context, and every answer
shows it.
-/

namespace ChartDialogue

open Decode

namespace ChartContext

def StandsIn (context : ChartContext) (request : Members none) : Prop :=
  request.find? "context" = context.encode.member? "context" ∧
    request.find? "schema" = context.encode.member? "schema"

/-- Whether a command sends a context back, if it is one that carries a context by which its session
goes. -/
def Echoed (context : ChartContext) (command : Json) : Prop :=
  ∀ name payload, Router.command? command = some (name, payload) → name = "q" ∨ name = "random" →
    ∃ request, payload = .object request ∧ context.StandsIn request

theorem encode_members (context : ChartContext) : ∃ members, context.encode = .object members ∧
    members.find? "context" = some context.plot ∧
    members.find? "schema" = some (Outline.record (context.fields.entries.map fun entry =>
      (entry.1, entry.2.outline))).toJson := by
  refine ⟨_, rfl, ?_⟩
  simp only [find?_fieldsToJson]
  exact ⟨congrArg some (Json.toJson_outline context.plot), rfl⟩

theorem strip_strip (stripped : StringSet) (plot : Json) :
    strip stripped (strip stripped plot) = strip stripped plot := by
  cases plot with
  | object members =>
    refine congrArg Json.object (Members.toList_injective ?_)
    rw [Members.toList_filter, Members.toList_filter, List.filter_filter]
    simp
  | null | bool _ | number _ | string _ | array _ => rfl

theorem strip_requestedPlot (stripped : StringSet) (payload : Members none) :
    strip stripped (requestedPlot stripped payload) = requestedPlot stripped payload := by
  unfold requestedPlot
  split
  · rfl
  · exact strip_strip stripped _

theorem ofRequest_of_standsIn {stripped : StringSet} {payload request : Members none}
    {context : ChartContext} (made : ofRequest stripped payload = .ok context)
    (stands : context.StandsIn request) : ofRequest stripped request = .ok context := by
  have sized := sized_of_ofRequest made
  rcases exists_of_bind_ok made with ⟨fields, _, made⟩
  cases made
  rcases encode_members ⟨requestedPlot stripped payload, fields⟩ with
    ⟨members, encoded, plotFound, fieldsFound⟩
  rw [StandsIn, encoded] at stands
  have plotSent := stands.1.trans plotFound
  have fieldsSent := stands.2.trans fieldsFound
  have restored := map_of_entries fun entry member => DataField.decode_encode (sized entry member)
  have read : requestedFields request = .ok fields := by
    rw [requestedFields, fieldsSent]
    exact restored
  have plot : requestedPlot stripped request = requestedPlot stripped payload := by
    rw [requestedPlot, plotSent]
    exact strip_requestedPlot stripped payload
  rw [ofRequest, read, plot]
  rfl

theorem standsIn_encode (context : ChartContext) :
    context.StandsIn context.encode.membersOrNone := by
  rcases context.encode_members with ⟨members, encoded, _, _⟩
  rw [StandsIn, encoded]
  exact ⟨rfl, rfl⟩

end ChartContext

def SessionTable.Holds (sessions : SessionTable) (id : String) (context : ChartContext) : Prop :=
  ∃ session, sessions.find? id = some session ∧ session.context = context

def Turn.ShowsIn (turn : Turn) (command : Json) (context : ChartContext) : Prop :=
  ∀ name payload response, Router.command? command = some (name, payload) →
    name = "q" ∨ name = "random" → turn.answer = .ok response →
    ∃ shown, response.answer = some shown ∧ shown.context = context

theorem Turn.showsIn_of_error {turn : Turn} {fault : CommandFault}
    (failed : turn.answer = .error fault) (command : Json) (context : ChartContext) :
    turn.ShowsIn command context := by
  intro _ _ _ _ _ answered
  rw [failed] at answered
  cases answered

theorem Session.context_hear? (session : Session) (utterance : Option String) :
    (session.hear? utterance).context = session.context := by
  cases utterance <;> rfl

namespace Router

open ChartContext

variable {router : Router} {payload : Members none} {context : ChartContext}
  {sessions : SessionTable} {speaker : String} {command : Json} {turn : Turn}

theorem contextOf_of_echoed {name : String} {sent : Json}
    (made : ofRequest router.resources.strippedKeys payload = .ok context)
    (echoed : context.Echoed command) (named : command? command = some (name, sent))
    (isChart : name = "q" ∨ name = "random") : router.contextOf name sent = .ok context := by
  rcases echoed name sent named isChart with ⟨request, rfl, stands⟩
  rw [contextOf, Json.membersOrNone, ofRequest_of_standsIn made stands]
  rfl

theorem installs?_of_echoed {installed : ChartContext}
    (made : ofRequest router.resources.strippedKeys payload = .ok context)
    (echoed : context.Echoed command) (installs : router.installs? command = some installed) :
    installed = context := by
  unfold installs? at installs
  split at installs
  · rename_i sent isQuery
    rw [contextOf_of_echoed made echoed isQuery (.inl rfl)] at installs
    split at installs <;> cases installs
    rfl
  · rename_i sent isRandom
    rw [contextOf_of_echoed made echoed isRandom (.inr rfl)] at installs
    split at installs <;> cases installs
    rfl
  · cases installs

theorem holds_of_step {id : String}
    (made : ofRequest router.resources.strippedKeys payload = .ok context)
    (holds : sessions.Holds id context) (echoed : speaker = id → context.Echoed command)
    (step : Step router sessions speaker command turn) : turn.sessions.Holds id context := by
  rcases holds with ⟨session, found, kept⟩
  rw [sessions_of_step step]
  split
  · by_cases own : id = speaker
    · subst own
      refine ⟨_, sessions.find?_insert_self id _, ?_⟩
      rw [Session.context_hear?, SessionTable.session, found]
      cases installs : router.installs? command with
      | none => exact kept
      | some installed => exact installs?_of_echoed made (echoed rfl) installs
    · exact ⟨session, (sessions.find?_insert_of_ne _ own).trans found, kept⟩
  · exact ⟨session, found, kept⟩

theorem showsIn_of_step (made : ofRequest router.resources.strippedKeys payload = .ok context)
    (echoed : context.Echoed command) (derives : router.parser.OnlyDerives)
    (step : Step router sessions speaker command turn) : turn.ShowsIn command context := by
  intro name sent response named isChart answered
  rcases (context_of_step step named isChart answered).2 with
    ⟨session, shown, _, answer, unchanged, installed⟩
  rw [contextOf_of_echoed made echoed named isChart] at installed
  cases installed
  exact ⟨shown, answer, unchanged (.inr derives)⟩

end Router

namespace Service

open ChartContext Router

variable {σ : Type} [WordSource σ]

/-- A command that cannot be logged changes no session and shows nothing, so nothing is asked of
the log. -/
theorem holds_handle {service : Service} {payload : Members none} {context : ChartContext}
    (made : ofRequest service.router.resources.strippedKeys payload = .ok context)
    (state : ServiceState σ) (tree : FileTree) {id : String}
    (holds : state.sessions.Holds id context) {speaker : String} {command : Json}
    (echoed : speaker = id → context.Echoed command) (time : String) :
    let turned := (service.handle (m := StateM FileTree) time state speaker command tree).1
    turned.2.sessions.Holds id context ∧
      (speaker = id → service.router.parser.OnlyDerives → turned.1.ShowsIn command context) := by
  cases recorded : service.record (m := StateM FileTree) ⟨command, speaker, time⟩ tree with
  | mk outcome after =>
    cases outcome with
    | error fault =>
      rw [handle_of_unlogged recorded]
      exact ⟨holds, fun _ _ => Turn.showsIn_of_error rfl command context⟩
    | ok _ =>
      rw [handle_of_logged recorded]
      have step := service.router.step_handle state.sessions speaker command state.source
      exact ⟨holds_of_step made holds echoed step,
        fun own derives => showsIn_of_step made (echoed own) derives step⟩

theorem holds_handleAll {service : Service} {payload : Members none} {context : ChartContext}
    (made : ofRequest service.router.resources.strippedKeys payload = .ok context) {id : String}
    {calls : List Call} (echoed : ∀ call ∈ calls, call.session = id → context.Echoed call.command)
    {state : ServiceState σ} (holds : state.sessions.Holds id context) (tree : FileTree) :
    let run := (service.handleAll calls state tree).1
    run.2.sessions.Holds id context ∧
      ∀ entry ∈ run.1, entry.1.session = id → entry.1.parser.OnlyDerives →
        entry.2.ShowsIn entry.1.command context := by
  induction calls generalizing state tree with
  | nil => exact ⟨holds, fun _ impossible => nomatch impossible⟩
  | cons call rest induction =>
    have here := @holds_handle σ _ (service.withParser call.parser) payload context made state tree
      id holds call.session call.command (echoed call List.mem_cons_self) call.time
    rcases handled : (service.withParser call.parser).handle (m := StateM FileTree) call.time state
        call.session call.command tree with ⟨turned, after⟩
    rw [handled] at here
    have later := induction
      (fun other member => echoed other (List.mem_cons_of_mem call member)) here.1 after
    rw [handleAll_cons rest handled]
    refine ⟨later.1, List.forall_mem_cons.mpr ⟨here.2, later.2⟩⟩

/-- A context that was made of a request is made again of its own JSON, and of any request that
carries it. A session that has it keeps it through every run in which what the session sends carries
it, whatever the others send, and every chart that the session is shown then is in this context, if
its parser leaves it there. Whether a chart is the initial one is read off the context, so that
stays as it was too. -/
theorem echoed_context {stripped : StringSet} {payload : Members none} {context : ChartContext}
    (made : ofRequest stripped payload = .ok context) :
    ofRequest stripped context.encode.membersOrNone = .ok context ∧
    (∀ request : Members none, context.StandsIn request →
      ofRequest stripped request = .ok context) ∧
    ∀ (service : Service) (calls : List Call) (state : ServiceState σ) (tree : FileTree)
      (id : String), service.router.resources.strippedKeys = stripped →
      state.sessions.Holds id context →
      (∀ call ∈ calls, call.session = id → context.Echoed call.command) →
      let run := (service.handleAll calls state tree).1
      run.2.sessions.Holds id context ∧
        ∀ entry ∈ run.1, entry.1.session = id → entry.1.parser.OnlyDerives →
          entry.2.ShowsIn entry.1.command context := by
  have again (request : Members none) (stands : context.StandsIn request) :
      ofRequest stripped request = .ok context := ofRequest_of_standsIn made stands
  refine ⟨again _ context.standsIn_encode, again, ?_⟩
  intro service calls state tree id strips holds echoed
  subst strips
  exact holds_handleAll made echoed holds tree

def columnRequest : Members none :=
  .ofList [
    ("context", .ofMembers [("$schema", .string "v5"), ("mark", .string "bar")]),
    ("schema", .ofMembers [("a", .array [.string "a", .string "string", .ofNat 3])])]

def columnContext : ChartContext where
  plot := .ofMembers [("mark", .string "bar")]
  fields := .ofList [("a", {
    name := "a"
    type := "string"
    uniqueCount := some 3
    count := none
    probablyYears := false
    source := false })]

/-- The chart is sent back twice, with a question and with a request for suggestions. -/
theorem echoed_context_of_column :
    let stripped := StringSet.ofList ["$schema"]
    let service : Service := {
      router := { bare with resources := { bare.resources with strippedKeys := stripped } } }
    let sent (name : String) (key : String) (value : Json) : Call := ⟨"", "s1",
      .array [.string name,
        .object (columnContext.encode.membersOrNone.insert key (above_none key) value)], .silent⟩
    let calls := [sent "q" "utterance" (.string "bars"), sent "random" "amount" (.ofNat 0)]
    let state : ServiceState MixedCounter :=
      ⟨StringMap.empty.insert "s1" { id := "s1", context := columnContext }, ⟨0⟩⟩
    let run := (service.handleAll calls state (.empty "/")).1
    ofRequest stripped columnRequest = .ok columnContext ∧
      ofRequest stripped columnContext.encode.membersOrNone = .ok columnContext ∧
      run.2.sessions.Holds "s1" columnContext ∧
      ∀ entry ∈ run.1, entry.1.session = "s1" → entry.1.parser.OnlyDerives →
        entry.2.ShowsIn entry.1.command columnContext := by
  intro stripped service sent calls state run
  have made : ofRequest stripped columnRequest = .ok columnContext := by rfl
  have holds : state.sessions.Holds "s1" columnContext := ⟨_, rfl, rfl⟩
  have echoed : ∀ call ∈ calls, call.session = "s1" → columnContext.Echoed call.command := by
    simp only [calls, List.forall_mem_cons]
    refine ⟨?_, ?_, List.forall_mem_nil _⟩ <;>
      · rintro - _ _ ⟨⟩ -
        exact ⟨_, rfl, rfl, rfl⟩
  have echoes := @echoed_context MixedCounter _ stripped columnRequest columnContext made
  exact ⟨made, echoes.1, echoes.2.2 service calls state _ "s1" rfl holds echoed⟩

end Service

end ChartDialogue
