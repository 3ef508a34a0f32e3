import ChartDialogue.Proofs.Json.Decoding
import ChartDialogue.Proofs.Session.Turns

/-! # The context that a command carries

A payload carries a chart and a data schema, by name or by position. A payload given by name makes
them the context of its session; a payload given by position is read just as well, but the context
of its session is then empty.
-/

namespace ChartDialogue

/-- The context made of a chart and a data schema; null stands for no schema. -/
def ChartContext.ofParts (stripped : StringSet) (plot schema : Json) : Decoded ChartContext :=
  match schema with
  | .null => .ok ⟨strip stripped plot, StringMap.empty⟩
  | schema => (fun fields => ⟨strip stripped plot, fields⟩) <$> Decode.map DataField.decode schema

theorem ChartContext.ofRequest_of_parts {stripped : StringSet} {members : Members none}
    {plot schema : Json} (hasPlot : members.find? "context" = some plot)
    (hasSchema : members.find? "schema" = some schema) :
    ofRequest stripped members = ofParts stripped plot schema := by
  simp only [ofRequest, requestedFields, requestedPlot, hasPlot, hasSchema]
  cases schema <;> rfl

/-! ## What an acceptance is decoded of -/

namespace AcceptPayload

open Decode

variable {request : AcceptPayload}

theorem of_decodeMembers_ok {members : Members none}
    (decoded : decodeMembers members = .ok request) :
    (∃ plot, members.find? "context" = some plot) ∧ ∃ formula,
      field? members "targetFormula" (optional value) = .ok formula ∧
        request.targetFormula = formula.getD none := by
  rcases exists_of_bind_ok decoded with ⟨_, plotRead, decoded⟩
  rcases exists_of_bind_ok decoded with ⟨formula, formulaRead, decoded⟩
  rcases exists_of_bind_ok decoded with ⟨_, _, decoded⟩
  rcases exists_of_bind_ok decoded with ⟨_, _, decoded⟩
  rcases exists_of_bind_ok decoded with ⟨_, _, decoded⟩
  rcases exists_of_bind_ok decoded with ⟨plot, plotThere, decoded⟩
  rcases exists_of_bind_ok decoded with ⟨_, _, decoded⟩
  cases decoded
  rw [of_required_ok plotThere] at plotRead
  exact ⟨⟨plot, find?_of_field?_value plotRead⟩, formula, formulaRead, rfl⟩

theorem of_decodeElements_ok {elements : List Json}
    (decoded : decodeElements elements = .ok request) :
    (∃ plot, elements[1]? = some plot) ∧ ∃ formula,
      element? elements 3 (optional value) = .ok formula ∧
        request.targetFormula = formula.getD none := by
  rcases exists_of_bind_ok decoded with ⟨_, _, decoded⟩
  rcases exists_of_bind_ok decoded with ⟨plot, plotRead, decoded⟩
  rcases exists_of_bind_ok decoded with ⟨_, _, decoded⟩
  rcases exists_of_bind_ok decoded with ⟨formula, formulaRead, decoded⟩
  cases decoded
  exact ⟨⟨plot, getElem?_of_element_value plotRead⟩, formula, formulaRead, rfl⟩

end AcceptPayload

/-! ## What a question or a request for suggestions carries -/

namespace Router

/-- The chart and the data schema in a payload of `q` or `random`: members of an object, or the
second and the third element of an array. -/
def carried? : Json → Option (Json × Json)
  | .object members => do return (← members.find? "context", ← members.find? "schema")
  | .array (_ :: plot :: schema :: _) => some (plot, schema)
  | _ => none

theorem carried?_of_members {members : Members none} {plot? schema? : Option Json}
    {plot schema : Json} (plotRead : Decode.field? members "context" Decode.value = .ok plot?)
    (schemaRead : Decode.field? members "schema" Decode.value = .ok schema?)
    (plotThere : Decode.required "context" plot? = .ok plot)
    (schemaThere : Decode.required "schema" schema? = .ok schema) :
    carried? (.object members) = some (plot, schema) := by
  rw [Decode.of_required_ok plotThere] at plotRead
  rw [Decode.of_required_ok schemaThere] at schemaRead
  simp [carried?, Decode.find?_of_field?_value plotRead, Decode.find?_of_field?_value schemaRead]

theorem carried?_of_elements {shape : Decode.RecordShape} {elements : List Json}
    {plot schema : Json} (plotRead : Decode.element shape elements 1 Decode.value = .ok plot)
    (schemaRead : Decode.element shape elements 2 Decode.value = .ok schema) :
    carried? (.array elements) = some (plot, schema) := by
  have second := Decode.getElem?_of_element_value plotRead
  have third := Decode.getElem?_of_element_value schemaRead
  match elements, second, third with
  | _ :: _ :: _ :: _, second, third =>
    cases second
    cases third
    rfl

theorem carried?_of_query {payload : Json} {request : QueryPayload}
    (read : QueryPayload.decode payload = .ok request) :
    ∃ plot schema, carried? payload = some (plot, schema) := by
  rcases Decode.of_record_ok read with ⟨members, rfl, named⟩ | ⟨elements, rfl, placed⟩
  · rcases exists_of_bind_ok named with ⟨_, _, named⟩
    rcases exists_of_bind_ok named with ⟨_, plotRead, named⟩
    rcases exists_of_bind_ok named with ⟨_, _, named⟩
    rcases exists_of_bind_ok named with ⟨_, schemaRead, named⟩
    rcases exists_of_bind_ok named with ⟨_, _, named⟩
    rcases exists_of_bind_ok named with ⟨_, _, named⟩
    rcases exists_of_bind_ok named with ⟨_, plotThere, named⟩
    rcases exists_of_bind_ok named with ⟨_, schemaThere, _⟩
    exact ⟨_, _, carried?_of_members plotRead schemaRead plotThere schemaThere⟩
  · rcases exists_of_bind_ok placed with ⟨_, _, placed⟩
    rcases exists_of_bind_ok placed with ⟨_, plotRead, placed⟩
    rcases exists_of_bind_ok placed with ⟨_, schemaRead, _⟩
    exact ⟨_, _, carried?_of_elements plotRead schemaRead⟩

theorem carried?_of_random {payload : Json} {request : RandomPayload}
    (read : RandomPayload.decode payload = .ok request) :
    ∃ plot schema, carried? payload = some (plot, schema) := by
  rcases Decode.of_record_ok read with ⟨members, rfl, named⟩ | ⟨elements, rfl, placed⟩
  · rcases exists_of_bind_ok named with ⟨_, _, named⟩
    rcases exists_of_bind_ok named with ⟨_, plotRead, named⟩
    rcases exists_of_bind_ok named with ⟨_, schemaRead, named⟩
    rcases exists_of_bind_ok named with ⟨_, _, named⟩
    rcases exists_of_bind_ok named with ⟨_, plotThere, named⟩
    rcases exists_of_bind_ok named with ⟨_, schemaThere, _⟩
    exact ⟨_, _, carried?_of_members plotRead schemaRead plotThere schemaThere⟩
  · rcases exists_of_bind_ok placed with ⟨_, _, placed⟩
    rcases exists_of_bind_ok placed with ⟨_, plotRead, placed⟩
    rcases exists_of_bind_ok placed with ⟨_, schemaRead, _⟩
    exact ⟨_, _, carried?_of_elements plotRead schemaRead⟩

theorem contextOf_carried {payload plot schema : Json}
    (carried : carried? payload = some (plot, schema)) (router : Router) (name : String) :
    router.contextOf name payload =
      if payload.asObject?.isSome then
        (ChartContext.ofParts router.resources.strippedKeys plot schema).mapError (.payload name)
      else .ok .empty := by
  cases payload with
  | object members =>
    simp only [carried?, Option.bind_eq_bind, Option.bind_eq_some_iff, Option.pure_def,
      Option.some.injEq, Prod.mk.injEq] at carried
    rcases carried with ⟨plot, hasPlot, schema, hasSchema, rfl, rfl⟩
    rw [contextOf, Json.membersOrNone, ChartContext.ofRequest_of_parts hasPlot hasSchema]
    rfl
  | array elements => rfl
  | null | bool _ | number _ | string _ => cases carried

theorem contextOf_of_carried {router : Router} {name : String} {payload plot schema : Json}
    {context : ChartContext} (carried : carried? payload = some (plot, schema))
    (installed : router.contextOf name payload = .ok context) :
    ChartContext.ofParts router.resources.strippedKeys plot schema = .ok context ↔
      payload.asObject?.isSome ∨
        ChartContext.ofParts router.resources.strippedKeys plot schema = .ok .empty := by
  rw [contextOf_carried carried] at installed
  by_cases byName : payload.asObject?.isSome
  · rw [if_pos byName] at installed
    cases parts : ChartContext.ofParts router.resources.strippedKeys plot schema with
    | error fault => rw [parts] at installed; cases installed
    | ok made =>
      rw [parts] at installed
      cases installed
      simp [byName]
  · rw [if_neg byName] at installed
    cases installed
    simp [byName]

theorem context_of_step {router : Router} {sessions : SessionTable} {id name : String}
    {command payload : Json} {turn : Turn} {response : Response}
    (step : Step router sessions id command turn) (named : command? command = some (name, payload))
    (isChart : name = "q" ∨ name = "random") (answered : turn.answer = .ok response) :
    (∃ plot schema, carried? payload = some (plot, schema)) ∧
      ∃ session shown, turn.sessions.find? id = some session ∧ response.answer = some shown ∧
        (name = "random" ∨ router.parser.OnlyDerives → shown.context = session.context) ∧
        router.contextOf name payload = .ok session.context := by
  cases step with
  | queryAnswered selected isQuery read installed asks parses =>
    cases named.symm.trans isQuery
    cases answered
    refine ⟨carried?_of_query read, _, _, StringMap.find?_insert_self _ _ _, rfl, ?_, installed⟩
    rintro (isRandom | onlyDerives)
    · simp at isRandom
    · rw [onlyDerives _ _ _ parses, asks]
      rfl
  | randomAnswered derivations isRandom read installed =>
    cases named.symm.trans isRandom
    cases answered
    exact ⟨carried?_of_random read, _, _, StringMap.find?_insert_self _ _ _, rfl, fun _ => rfl,
      installed⟩
  | invalid unnamed => cases named.symm.trans unnamed
  | queryUnread | queryWithoutContext | queryUnparsed | randomUnread | randomWithoutContext
  | acceptUnread | acceptWithoutContext | acceptUnparsed | exampleUnread => cases answered
  | accepted isAccept | exampleAnswered _ isExample =>
    rcases isChart with rfl | rfl <;> simp_all
  | ignored other unknown =>
    cases named.symm.trans other
    rcases isChart with rfl | rfl <;> simp at unknown

/-- What a successful `q` or `random` installs is what its payload carries exactly when the payload
is an object, or when what it carries by position makes the empty context anyway. The answer to a
`random` shows the context that is installed, and so does that to a `q` if the parser leaves it
alone. -/
theorem installed_context {σ : Type} [WordSource σ] (router : Router) (sessions : SessionTable)
    (id : String) (source : σ) {command payload : Json} {name : String} {response : Response}
    (named : command? command = some (name, payload)) (isChart : name = "q" ∨ name = "random")
    (answered : (router.handle sessions id command source).1.answer = .ok response) :
    ∃ plot schema session shown, carried? payload = some (plot, schema) ∧
      (router.handle sessions id command source).1.sessions.find? id = some session ∧
      response.answer = some shown ∧
      (name = "random" ∨ router.parser.OnlyDerives → shown.context = session.context) ∧
      (ChartContext.ofParts router.resources.strippedKeys plot schema = .ok session.context ↔
        payload.asObject?.isSome ∨
          ChartContext.ofParts router.resources.strippedKeys plot schema = .ok .empty) := by
  have step := router.step_handle sessions id command source
  rcases context_of_step step named isChart answered with
      ⟨⟨plot, schema, carried⟩, session, shown, found, answer, unchanged, installed⟩
  exact ⟨plot, schema, session, shown, carried, found, answer, unchanged,
    contextOf_of_carried carried installed⟩

theorem installed_context_of_bar :
    ∃ (response : Response) (session : Session) (shown : Example),
      (bare.handle StringMap.empty "s1" barQuestion (⟨0⟩ : MixedCounter)).1.answer =
        .ok response ∧
      response.answer = some shown ∧ shown.context = session.context ∧
      ChartContext.ofParts StringSet.empty (.ofMembers [("mark", .string "bar")]) .null =
        .ok session.context := by
  rcases installed_context bare StringMap.empty "s1" (⟨0⟩ : MixedCounter)
      (show command? barQuestion = some ("q", _) from rfl) (.inl rfl) rfl with
      ⟨plot, schema, session, shown, carried, _, answer, unchanged, installed⟩
  cases carried
  exact ⟨_, session, shown, rfl, answer, unchanged (.inr Parser.onlyDerives_silent),
    installed.mpr (.inl rfl)⟩

/-- A bar chart that is sent by position is read, and then left out. -/
theorem positional_chart_is_left_out :
    let turn := (bare.handle StringMap.empty "s1" (.array [.string "q", .array [
      .string "hi", .ofMembers [("mark", .string "bar")], Json.emptyObject]])
      (⟨0⟩ : MixedCounter)).1
    turn.answer.toOption.bind (·.answer.map (·.context)) = some .empty ∧
      (turn.sessions.find? "s1").map (·.context) = some .empty ∧
      (ChartContext.ofParts StringSet.empty (.ofMembers [("mark", .string "bar")])
        Json.emptyObject).toOption =
          some ⟨.ofMembers [("mark", .string "bar")], StringMap.empty⟩ := by
  decide +kernel

end Router

end ChartDialogue
