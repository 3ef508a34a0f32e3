import ChartDialogue.Proofs.Session.CarriedContext
import ChartDialogue.Proofs.Session.SessionHistory
import Mathlib.Data.List.Forall2

/-! # What the parser and the learner are shown

Questions and acceptances are put to the parser, once each, and accepted examples to the learner.
Either is shown who spoke, what was said and the context that came with it, and nothing of the
session. Of the context, a chart that is sent by position is not seen.
-/

namespace ChartDialogue

theorem filter_eq_flatMap {α : Type} (keep : α → Bool) (list : List α) :
    list.filter keep = list.flatMap fun value => [value].filter keep := by
  rw [← List.filter_flatMap, List.flatMap_singleton']

theorem forall₂_flatMap {α β γ : Type} {related : β → γ → Prop} {first : α → List β}
    {second : α → List γ} {list : List α}
    (each : ∀ value ∈ list, List.Forall₂ related (first value) (second value)) :
    List.Forall₂ related (list.flatMap first) (list.flatMap second) := by
  have paired : List.Forall₂ (fun left right => left = right ∧ left ∈ list) list list :=
    List.forall₂_same.mpr fun value member => ⟨rfl, member⟩
  refine List.rel_flatMap paired ?_
  rintro left right ⟨rfl, member⟩
  exact each left member

theorem Members.find?_filter_of_not {keep : String → Bool} {key : String}
    (dropped : keep key = false) {floor : Option String} (members : Members floor) :
    (members.filter keep).find? key = none := by
  rw [find?_eq_lookup, toList_filter, List.lookup_eq_none_iff]
  intro entry member
  have kept : keep entry.1 = true := (List.mem_filter.mp member).2
  rw [bne_iff_ne]
  rintro rfl
  rw [kept] at dropped
  cases dropped

theorem ChartContext.member?_strip {stripped : StringSet} {key : String}
    (dropped : stripped.contains key = true) (plot : Json) :
    (strip stripped plot).member? key = none := by
  cases plot with
  | object members => exact Members.find?_filter_of_not (by simp [dropped]) members
  | null | bool _ | number _ | string _ | array _ => rfl

def sentPlot? : Json → Option Json
  | .object members => members.find? "context"
  | .array (_ :: plot :: _) => some plot
  | _ => none

/-- Whether an example shows who sent a payload, what is said in it, and its context. The data
schema is looked up by name. The chart is the one that was sent, without the members that are
dropped, exactly when it was sent by name, or when nothing else would be left of it. -/
structure Reflects (dropped : StringSet) (speaker utterance : String) (payload : Json)
    (shown : Example) : Prop where
  speaker : shown.id = speaker
  utterance : shown.utterance = Text.trim utterance
  fields : ChartContext.requestedFields payload.membersOrNone = .ok shown.context.fields
  stripped : ∀ key, dropped.contains key = true → shown.context.plot.member? key = none
  plot : ∃ sent, sentPlot? payload = some sent ∧
    (shown.context.plot = ChartContext.strip dropped sent ↔
      payload.asObject?.isSome ∨ ChartContext.strip dropped sent = Json.emptyObject)

namespace Router

inductive Consulted (router : Router) (call : Call) : ParseCall → Prop
  | asking {payload request shown} :
      command? call.command = some ("q", payload) →
      QueryPayload.decode payload = .ok request →
      Reflects router.resources.strippedKeys call.session request.utterance payload shown →
      shown.targetValue = none → shown.targetFormula = none →
      Consulted router call ⟨shown, false⟩
  | teaching {payload request shown} :
      command? call.command = some ("accept", payload) →
      AcceptPayload.decode payload = .ok request →
      Reflects router.resources.strippedKeys call.session request.utterance payload shown →
      shown.targetValue = some request.targetValue →
      shown.targetFormula = request.targetFormula →
      Consulted router call ⟨shown, true⟩

/-- Whether a command is put to the parser: a question or an acceptance whose payload can be read,
and the data schema in it. -/
def consults (command : Json) : Bool :=
  match command? command with
  | some ("q", payload) =>
    (QueryPayload.decode payload).isOk &&
      (ChartContext.requestedFields payload.membersOrNone).isOk
  | some ("accept", payload) =>
    (AcceptPayload.decode payload).isOk &&
      (ChartContext.requestedFields payload.membersOrNone).isOk
  | _ => false

def isAcceptance (command : Json) : Bool := (command? command).map (·.1) == some "accept"

/-- Whether a turn is learned from: an acceptance that succeeds, if learning is on and there is a
learner. -/
def isLesson (router : Router) (entry : Call × Turn) : Bool :=
  router.options.learnExamples && router.hasLearner &&
    (isAcceptance entry.1.command && entry.2.answer.isOk)

/-! ## Payloads -/

section Payloads

variable {payload : Json}

theorem sentPlot?_of_carried {plot schema : Json}
    (carried : carried? payload = some (plot, schema)) : sentPlot? payload = some plot := by
  cases payload with
  | object members =>
    simp only [carried?, Option.bind_eq_bind, Option.bind_eq_some_iff, Option.pure_def,
      Option.some.injEq, Prod.mk.injEq] at carried
    rcases carried with ⟨_, hasPlot, _, _, rfl, _⟩
    exact hasPlot
  | array elements =>
    rcases elements with _ | ⟨_, _ | ⟨_, _ | ⟨_, _⟩⟩⟩ <;> cases carried
    rfl
  | null | bool _ | number _ | string _ => cases carried

theorem sentPlot?_of_query {request : QueryPayload}
    (read : QueryPayload.decode payload = .ok request) :
    ∃ plot, sentPlot? payload = some plot := by
  rcases carried?_of_query read with ⟨plot, schema, carried⟩
  exact ⟨plot, sentPlot?_of_carried carried⟩

theorem sentPlot?_of_accept {request : AcceptPayload}
    (read : AcceptPayload.decode payload = .ok request) :
    ∃ plot, sentPlot? payload = some plot := by
  rcases Decode.of_record_ok read with ⟨members, rfl, named⟩ | ⟨elements, rfl, placed⟩
  · exact (AcceptPayload.of_decodeMembers_ok named).1
  · rcases (AcceptPayload.of_decodeElements_ok placed).1 with ⟨plot, second⟩
    rcases elements with _ | ⟨_, _ | ⟨_, _⟩⟩ <;> cases second
    exact ⟨plot, rfl⟩

theorem contextOf_eq_ok_iff {router : Router} {name : String} {context : ChartContext} :
    router.contextOf name payload = .ok context ↔
      ChartContext.requestedFields payload.membersOrNone = .ok context.fields ∧
        context.plot =
          ChartContext.requestedPlot router.resources.strippedKeys payload.membersOrNone := by
  unfold contextOf ChartContext.ofRequest
  cases ChartContext.requestedFields payload.membersOrNone with
  | error fault => simp [bind, Except.bind, Except.mapError]
  | ok fields =>
    cases context
    simp [bind, Except.bind, Except.mapError, pure, Except.pure, and_comm, eq_comm]

theorem isOk_requestedFields {router : Router} {name : String}
    {made : Except CommandFault ChartContext} (carried : router.contextOf name payload = made) :
    (ChartContext.requestedFields payload.membersOrNone).isOk = made.isOk := by
  rw [← carried]
  unfold contextOf ChartContext.ofRequest
  cases ChartContext.requestedFields payload.membersOrNone <;> rfl

theorem reflects_of_contextOf {router : Router} {name speaker utterance : String} {plot : Json}
    {shown : Example} (sent : sentPlot? payload = some plot)
    (carried : router.contextOf name payload = .ok shown.context) (own : shown.id = speaker)
    (said : shown.utterance = Text.trim utterance) :
    Reflects router.resources.strippedKeys speaker utterance payload shown := by
  rcases contextOf_eq_ok_iff.mp carried with ⟨fields, shownPlot⟩
  refine ⟨own, said, fields, ?_, plot, sent, ?_⟩
  · intro key dropped
    rw [shownPlot, ChartContext.requestedPlot]
    split
    · rfl
    · exact ChartContext.member?_strip dropped _
  · cases payload with
    | object members =>
      have found : members.find? "context" = some plot := sent
      rw [Json.membersOrNone, ChartContext.requestedPlot, found] at shownPlot
      simp [shownPlot, Json.asObject?]
    | array elements =>
      have nothing : shown.context.plot = Json.emptyObject := shownPlot
      simp [nothing, Json.asObject?, eq_comm]
    | null | bool _ | number _ | string _ => cases sent

end Payloads

/-! ## One turn -/

section Steps

variable {router : Router} {sessions : SessionTable} {call : Call} {turn : Turn}

theorem consulted_of_step
    (step : Step (router.withParser call.parser) sessions call.session call.command turn)
    (named : (sessions.session call.session).id = call.session) :
    List.Forall₂ router.Consulted ([call].filter fun call => consults call.command)
      turn.parsed := by
  have silent (foreign : consults call.command = false) :
      List.Forall₂ router.Consulted ([call].filter fun call => consults call.command) [] := by
    simp [foreign]
  have once {use : ParseCall} (consulting : consults call.command = true)
      (consulted : router.Consulted call use) :
      List.Forall₂ router.Consulted ([call].filter fun call => consults call.command) [use] := by
    simp [consulting, consulted]
  cases step with
  | invalid unnamed => exact silent (by simp [consults, unnamed])
  | queryUnread isQuery unread =>
    exact silent (by simp [consults, isQuery, unread, isOk_error])
  | queryWithoutContext isQuery read carried =>
    have schema := isOk_requestedFields carried
    exact silent (by simp [consults, isQuery, schema, isOk_error])
  | queryUnparsed isQuery read carried asked | queryAnswered _ isQuery read carried asked =>
    have schema := isOk_requestedFields carried
    rcases sentPlot?_of_query read with ⟨plot, sent⟩
    rw [named] at asked
    subst asked
    refine once (by simp [consults, isQuery, read, schema, isOk_ok]) ?_
    exact .asking isQuery read (reflects_of_contextOf sent carried rfl rfl) rfl rfl
  | acceptUnread isAccept unread =>
    exact silent (by simp [consults, isAccept, unread, isOk_error])
  | acceptWithoutContext isAccept read carried =>
    have schema := isOk_requestedFields carried
    exact silent (by simp [consults, isAccept, schema, isOk_error])
  | acceptUnparsed isAccept read carried asked | accepted isAccept read carried asked =>
    have schema := isOk_requestedFields carried
    rcases sentPlot?_of_accept read with ⟨plot, sent⟩
    rw [named] at asked
    subst asked
    refine once (by simp [consults, isAccept, read, schema, isOk_ok]) ?_
    exact .teaching isAccept read (reflects_of_contextOf sent carried rfl rfl) rfl rfl
  | randomUnread other | randomWithoutContext other | randomAnswered _ other | exampleUnread other
  | exampleAnswered _ other => exact silent (by simp [consults, other])
  | ignored other unknown =>
    simp only [List.mem_cons, not_or] at unknown
    exact silent (by simp [consults, other, unknown])

theorem learned_of_step
    (step : Step (router.withParser call.parser) sessions call.session call.command turn)
    (named : (sessions.session call.session).id = call.session)
    (derives : call.parser.OnlyDerives) :
    List.Forall₂ (fun entry shown => router.Consulted entry.1 ⟨shown, true⟩)
      ([(call, turn)].filter router.isLesson) turn.learned := by
  have silent (noLesson : router.isLesson (call, turn) = false) :
      List.Forall₂ (fun entry shown => router.Consulted entry.1 ⟨shown, true⟩)
        ([(call, turn)].filter router.isLesson) [] := by
    simp [noLesson]
  cases step with
  | accepted isAccept read carried asked parses =>
    -- The learner is shown what the parser has made of the example, which only adds derivations.
    rename_i payload request context asked parsed
    rcases sentPlot?_of_accept read with ⟨plot, sent⟩
    have kept := derives _ _ _ parses
    rw [named] at asked
    have consulted : router.Consulted call ⟨parsed, true⟩ := by
      rw [kept, asked]
      exact .teaching isAccept read (reflects_of_contextOf sent carried rfl rfl) rfl rfl
    by_cases learns : (router.options.learnExamples && router.hasLearner) = true
    · simp [isLesson, isAcceptance, isAccept, isOk_ok, withParser, learns, consulted]
    · simp [isLesson, isAcceptance, isAccept, isOk_ok, withParser, learns]
  | acceptUnread | acceptWithoutContext | acceptUnparsed | queryUnread | queryWithoutContext
  | queryUnparsed | randomUnread | randomWithoutContext | exampleUnread | invalid =>
    exact silent (by simp [isLesson, isOk_error])
  | queryAnswered _ other | randomAnswered _ other | exampleAnswered _ other =>
    exact silent (by simp [isLesson, isAcceptance, other])
  | ignored other unknown =>
    simp only [List.mem_cons, not_or] at unknown
    exact silent (by simp [isLesson, isAcceptance, other, unknown])

end Steps

/-! ## Runs -/

section Runs

variable {σ : Type} [WordSource σ] {state : ServiceState σ}

theorem consulted_handleAll (router : Router) (named : state.sessions.Named) (calls : List Call) :
    List.Forall₂ router.Consulted (calls.filter fun call => consults call.command)
      ((router.handleAll calls state).1.flatMap (·.2.parsed)) := by
  have byEntry : (calls.filter fun call => consults call.command) =
      (router.handleAll calls state).1.flatMap fun entry =>
        [entry.1].filter fun call => consults call.command :=
    calc calls.filter (fun call => consults call.command)
        = ((router.handleAll calls state).1.map (·.1)).filter
            fun call => consults call.command := by rw [router.map_fst_handleAll]
      _ = _ := by rw [filter_eq_flatMap, List.flatMap_map]
  rw [byEntry]
  apply forall₂_flatMap
  intro entry member
  rcases (exists_step_of_mem_handleAll named entry member).2 with ⟨sessions, named, step⟩
  exact consulted_of_step step (named.session entry.1.session)

theorem learned_handleAll (router : Router) (named : state.sessions.Named) {calls : List Call}
    (derives : ∀ call ∈ calls, call.parser.OnlyDerives) :
    List.Forall₂ (fun entry shown => router.Consulted entry.1 ⟨shown, true⟩)
      ((router.handleAll calls state).1.filter router.isLesson)
      ((router.handleAll calls state).1.flatMap (·.2.learned)) := by
  rw [filter_eq_flatMap]
  apply forall₂_flatMap
  intro entry member
  rcases exists_step_of_mem_handleAll named entry member with ⟨sent, sessions, named, step⟩
  exact learned_of_step step (named.session entry.1.session) (derives entry.1 sent)

end Runs

def positionalAcceptance : Json :=
  .array [.string "accept", .array [
    .string "hi", .ofMembers [("mark", .string "bar")], .ofNat 3]]

/-- A bar chart that comes with an acceptance by position is neither parsed in nor learned. -/
theorem positional_chart_is_not_learned :
    let turn := ({ bare with hasLearner := true }.handle StringMap.empty "s1" positionalAcceptance
      (⟨0⟩ : MixedCounter)).1
    turn.answer.isOk = true ∧
      (command? positionalAcceptance).bind (sentPlot? ·.2) =
        some (.ofMembers [("mark", .string "bar")]) ∧
      turn.parsed.map (·.asked.context) = [.empty] ∧ turn.learned.map (·.context) = [.empty] := by
  decide +kernel

end Router

namespace Service

open Router

variable {σ : Type} [WordSource σ]

/-- In any run the parser is consulted, in order, once for each question and each acceptance that
can be logged and whose payload and data schema can be read, and the learner is shown, in order, one
example for each acceptance that succeeds, if learning is on and there is a learner. What both are
shown reflects the call. -/
theorem shown_of_run (service : Service) {calls : List Call} (source : σ) (tree : FileTree)
    (derives : ∀ call ∈ calls, call.parser.OnlyDerives) :
    let history := (service.handleAll calls ⟨StringMap.empty, source⟩ tree).1.1
    history.map (·.1) = calls ∧
      List.Forall₂ service.router.Consulted
        ((service.loggedCalls calls tree).filter fun call => consults call.command)
        (history.flatMap (·.2.parsed)) ∧
      List.Forall₂ (fun entry shown => service.router.Consulted entry.1 ⟨shown, true⟩)
        (history.filter service.router.isLesson) (history.flatMap (·.2.learned)) := by
  intro history
  have derivesLogged : ∀ call ∈ service.loggedCalls calls tree, call.parser.OnlyDerives :=
    fun call logged => derives call ((service.loggedCalls_sublist calls tree).subset logged)
  refine ⟨service.calls_handleAll calls _ tree, ?_, ?_⟩
  · simp only [history]
    rw [service.flatMap_handleAll fun _ _ _ => rfl]
    exact service.router.consulted_handleAll SessionTable.named_empty _
  · simp only [history]
    rw [service.flatMap_handleAll fun _ _ _ => rfl, filter_eq_flatMap,
      service.flatMap_handleAll (fun _ _ _ => by simp [isLesson, isOk_error]), ← filter_eq_flatMap]
    exact service.router.learned_handleAll SessionTable.named_empty derivesLogged

def questionAndLesson : List Call := [
  ⟨"", "s1", barQuestion, .silent⟩,
  ⟨"", "s1", lineAcceptance, .silent⟩,
  ⟨"", "s2", .array [.string "accept"], .silent⟩]

theorem shown_of_question_and_lesson :
    let service : Service := { router := { bare with hasLearner := true } }
    let history := (service.handleAll questionAndLesson
      ⟨StringMap.empty, (⟨0⟩ : MixedCounter)⟩ (.empty "/")).1.1
    (∀ call ∈ questionAndLesson, call.parser.OnlyDerives) ∧
      (history.flatMap (·.2.parsed)).length = 2 ∧ (history.flatMap (·.2.learned)).length = 1 ∧
      history.flatMap (fun entry => entry.2.learned.map (·.targetValue)) =
        [some (.ofMembers [("mark", .string "line")])] := by
  intro service history
  have derives : ∀ call ∈ questionAndLesson, call.parser.OnlyDerives := by
    simp [questionAndLesson, Parser.onlyDerives_silent]
  rcases shown_of_run service (⟨0⟩ : MixedCounter) (.empty "/") derives with ⟨_, parsed, learned⟩
  refine ⟨derives, ?_, ?_, by decide +kernel⟩
  · exact parsed.length_eq.symm.trans (by decide +kernel)
  · exact learned.length_eq.symm.trans (by decide +kernel)

end Service

end ChartDialogue
