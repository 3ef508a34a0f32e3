import ChartDialogue.Proofs.Engine.Proposals
import ChartDialogue.Proofs.Grammar.QueryMeaning
import ChartDialogue.Proofs.Session.CarriedContext
import ChartDialogue.Proofs.Suggest.Changes
import ChartDialogue.Proofs.Suggest.FirstCharts

/-! # What is suggested at random

Every `random` that can be read is answered. If its payload is an object, what is suggested suits
the context that it carries: changes of the chart, or first charts over the fields if there is no
chart yet. A payload given by position is answered as if it carried nothing, without any suggestion.
-/

namespace ChartDialogue

open Suggest

theorem PathIndex.excluded_of_mem_paths {nodes : List SchemaNode} {excluded : String → Bool}
    {path : SimplePath} (listed : path ∈ (build nodes excluded).paths) :
    ∀ segment ∈ path.segments, excluded segment = false :=
  PathLookup.meets_eq_false_iff.mp (mem_paths_build_iff.mp listed).1

namespace Router

variable {σ : Type} [WordSource σ]

structure AsksAtRandom (router : Router) (command payload : Json) (amount : Nat)
    (context : ChartContext) : Prop where
  named : command? command = some ("random", payload)
  read : RandomPayload.decode payload = .ok ⟨amount⟩
  carries : ∃ plot schema, carried? payload = some (plot, schema) ∧
    ChartContext.ofParts router.resources.strippedKeys plot schema = .ok context

/-- A turn that shows suggestions for a context, which becomes that of the session, and does nothing
else. -/
structure ShowsSuggestions (sessions : SessionTable) (id : String) (turn : Turn)
    (context : ChartContext) (suggested : List Derivation) : Prop where
  answered : turn.answer = .ok {
    answer := some { Example.ofUtterance (sessions.session id).id "" context with
      derivations := suggested }
    stats := { command := "random", size := some suggested.length } }
  installed : turn.sessions = sessions.insert id { sessions.session id with context }
  unparsed : turn.parsed = []
  unlearned : turn.learned = []

theorem suggestions_of_initial {context : ChartContext} (uncharted : context.isInitial = true)
    (engine : Engine) (templates : List Template) (amount : Nat) :
    (suggestions engine templates context amount : Draw σ (List Derivation)) =
      initial templates context amount := if_pos uncharted

theorem suggestions_of_charted {context : ChartContext} (charted : context.isInitial = false)
    (engine : Engine) (templates : List Template) (amount : Nat) :
    (suggestions engine templates context amount : Draw σ (List Derivation)) =
      modification engine context.plot amount := if_neg (by simp [charted])

variable {router : Router} {command payload : Json} {amount : Nat} {context : ChartContext}

theorem AsksAtRandom.contextOf_of_object
    (asks : AsksAtRandom router command payload amount context)
    (byName : payload.asObject?.isSome) : router.contextOf "random" payload = .ok context := by
  rcases asks.carries with ⟨plot, schema, carried, made⟩
  rw [contextOf_carried carried, if_pos byName, made]
  rfl

theorem AsksAtRandom.contextOf_of_array
    (asks : AsksAtRandom router command payload amount context)
    (byPosition : ¬ payload.asObject?.isSome) :
    router.contextOf "random" payload = .ok .empty := by
  rcases asks.carries with ⟨plot, schema, carried, _⟩
  rw [contextOf_carried carried, if_neg byPosition]

theorem AsksAtRandom.showsSuggestions {installed : ChartContext}
    (asks : AsksAtRandom router command payload amount context)
    (installs : router.contextOf "random" payload = .ok installed)
    (sessions : SessionTable) (id : String) (source : σ) :
    ShowsSuggestions sessions id (router.handle sessions id command source).1 installed
      (suggestions router.resources.engine router.resources.store.templates installed amount
        source).1 := by
  have turned : router.handle sessions id command source =
      router.random sessions id payload source := by
    simp only [handle, asks.named]
  rw [turned]
  unfold random
  rw [asks.read, installs]
  exact ⟨rfl, rfl, rfl, rfl⟩

/-- Nothing is suggested for a payload given by position. -/
theorem AsksAtRandom.showsNothing (asks : AsksAtRandom router command payload amount context)
    (byPosition : ¬ payload.asObject?.isSome) (sessions : SessionTable) (id : String)
    (source : σ) :
    ShowsSuggestions sessions id (router.handle sessions id command source).1 .empty [] :=
  asks.showsSuggestions (asks.contextOf_of_array byPosition) sessions id source

/-- For a chart that is sent by name, changes are suggested: no more than asked for, each of them a
different chart that comes of one value written at one listed path. -/
theorem suggested_changes (router : Router) (sessions : SessionTable) (id : String) (source : σ)
    {command payload : Json} {amount : Nat} {context : ChartContext}
    (asks : AsksAtRandom router command payload amount context)
    (charted : context.isInitial = false) :
    let turn := (router.handle sessions id command source).1
    let engine := router.resources.engine
    (payload.asObject?.isSome → ∃ suggested, ShowsSuggestions sessions id turn context suggested ∧
      suggested.length ≤ min amount 1000 ∧
      (∃ count ≤ 20 * min amount 1000,
        suggested = (tries engine context.plot count source).1.reduceOption) ∧
      ∀ change ∈ suggested, change.value ≠ context.plot ∧
        ∃ path value, IsChange σ engine context.plot path value change ∧
          ∀ nodes excluded, router.resources.paths = PathIndex.build nodes excluded →
            ∀ segment ∈ path.segments, excluded segment = false) ∧
    (¬ payload.asObject?.isSome → ShowsSuggestions sessions id turn .empty []) := by
  intro turn engine
  refine ⟨fun byName => ?_, fun byPosition => asks.showsNothing byPosition sessions id source⟩
  have shown := asks.showsSuggestions (asks.contextOf_of_object byName) sessions id source
  rw [suggestions_of_charted charted] at shown
  rcases exists_tries_of_modification engine context.plot amount source with
      ⟨count, bounded, result, few⟩
  refine ⟨_, shown, few, ⟨count, ?_, congrArg Prod.fst result⟩, ?_⟩
  · rw [Nat.mul_comm]
    exact bounded
  · intro change member
    rcases isChange_of_mem_modification member with ⟨path, value, isChange⟩
    refine ⟨Json.ne_of_not_same isChange.differs, path, value, isChange, ?_⟩
    intro nodes excluded indexed
    have listed : path ∈ router.resources.paths.paths := isChange.listed
    exact PathIndex.excluded_of_mem_paths (indexed ▸ listed)

def choosing : Router where
  resources := Resources.build Engine.choicesGrammar StringSet.empty {}

def chosenChart : ChartContext := ⟨.ofMembers [("a", .string "x")], StringMap.empty⟩

def twoChanges : Json :=
  .array [.string "random", .ofMembers [
    ("amount", .ofNat 2), ("context", chosenChart.plot), ("schema", .null)]]

theorem suggested_changes_of_choices :
    let turn := (choosing.handle StringMap.empty "s1" twoChanges (⟨0⟩ : MixedCounter)).1
    ∃ suggested, ShowsSuggestions StringMap.empty "s1" turn chosenChart suggested ∧
      suggested.length = 2 ∧
      ∀ change ∈ suggested, change.value ≠ chosenChart.plot ∧ ∃ path value,
        IsChange MixedCounter choosing.resources.engine chosenChart.plot path value change := by
  intro turn
  have asks : AsksAtRandom choosing twoChanges _ 2 chosenChart :=
    ⟨rfl, rfl, chosenChart.plot, .null, rfl, rfl⟩
  rcases (suggested_changes choosing StringMap.empty "s1" (⟨0⟩ : MixedCounter) asks rfl).1 rfl
    with ⟨suggested, shown, _, _, changes⟩
  refine ⟨suggested, shown, ?_, ?_⟩
  · have counted : (turn.answer.toOption.bind (·.stats.size)) = some 2 := by decide +kernel
    rw [shown.answered] at counted
    exact Option.some.inj counted
  · intro change member
    rcases changes change member with ⟨differs, path, value, isChange, _⟩
    exact ⟨differs, path, value, isChange⟩

/-- For a chart that is sent by position nothing is suggested, and the session is left without
it. -/
theorem positional_chart_is_not_changed :
    let payload := Json.array [.ofNat 3, .ofMembers [("mark", .string "bar")], .null]
    let context : ChartContext := ⟨.ofMembers [("mark", .string "bar")], StringMap.empty⟩
    let turn := (bare.handle StringMap.empty "s1" (.array [.string "random", payload])
      (⟨0⟩ : MixedCounter)).1
    AsksAtRandom bare (.array [.string "random", payload]) payload 3 context ∧
      context.isInitial = false ∧
      turn.answer.toOption.bind (·.answer.map (·.context)) = some .empty ∧
      (turn.sessions.find? "s1").map (·.context) = some .empty ∧ ChartContext.empty ≠ context := by
  refine ⟨⟨rfl, rfl, _, _, rfl, rfl⟩, rfl, ?_⟩
  decide +kernel

/-- For fields that are sent by name with no chart yet, first charts are suggested: as many as asked
for, unless there is no field, each of them one of the templates over the fields. -/
theorem suggested_first_charts (router : Router) (sessions : SessionTable) (id : String)
    (source : σ) {command payload : Json} {amount : Nat} {context : ChartContext}
    (asks : AsksAtRandom router command payload amount context)
    (uncharted : context.isInitial = true) :
    let turn := (router.handle sessions id command source).1
    let fields := context.fields.values
    (payload.asObject?.isSome → ∃ suggested, ShowsSuggestions sessions id turn context suggested ∧
      suggested.length = (if fields = [] then 0 else min amount 1000) ∧
      ∀ chart ∈ suggested, ∃ template bindings,
        template.IsAvailable router.resources.store.templates ∧
        IsFirstChart fields template bindings chart) ∧
    (¬ payload.asObject?.isSome → ShowsSuggestions sessions id turn .empty []) := by
  intro turn fields
  refine ⟨fun byName => ?_, fun byPosition => asks.showsNothing byPosition sessions id source⟩
  have shown := asks.showsSuggestions (asks.contextOf_of_object byName) sessions id source
  rw [suggestions_of_initial uncharted] at shown
  refine ⟨_, shown, ?_, fun chart member => isFirstChart_of_mem_initial member⟩
  split
  · rename_i noFields
    rw [initial_of_no_fields _ noFields]
    rfl
  · rename_i someFields
    exact length_initial _ someFields amount source

def oneTemplate : Router where
  resources := Resources.build bare.resources.grammar StringSet.empty {
    templates := [⟨"bar", StringMap.ofList [("x", "nominal")]⟩] }

def oneColumn : ChartContext where
  plot := Json.emptyObject
  fields := StringMap.ofList [("a", {
    name := "a", type := "string"
    uniqueCount := none, count := none
    probablyYears := false, source := false })]

def columnSchema : Json :=
  .ofMembers [("a", .ofMembers [("name", .string "a"), ("type", .string "string")])]

theorem suggested_first_charts_of_column :
    let payload := Json.ofMembers [
      ("amount", .ofNat 2), ("context", Json.emptyObject), ("schema", columnSchema)]
    let turn := (oneTemplate.handle StringMap.empty "s1" (.array [.string "random", payload])
      (⟨0⟩ : MixedCounter)).1
    ∃ suggested, ShowsSuggestions StringMap.empty "s1" turn oneColumn suggested ∧
      suggested.length = 2 ∧
      ∀ chart ∈ suggested, ∃ template bindings,
        template.IsAvailable oneTemplate.resources.store.templates ∧
        IsFirstChart oneColumn.fields.values template bindings chart := by
  intro payload turn
  have asks : AsksAtRandom oneTemplate (.array [.string "random", payload]) payload 2 oneColumn :=
    ⟨rfl, rfl, Json.emptyObject, columnSchema, rfl, rfl⟩
  exact (suggested_first_charts oneTemplate StringMap.empty "s1" (⟨0⟩ : MixedCounter) asks rfl).1
    rfl

theorem positional_column_has_no_charts :
    let payload := Json.array [.ofNat 1, Json.emptyObject, columnSchema]
    let turn := (oneTemplate.handle StringMap.empty "s1" (.array [.string "random", payload])
      (⟨0⟩ : MixedCounter)).1
    AsksAtRandom oneTemplate (.array [.string "random", payload]) payload 1 oneColumn ∧
      oneColumn.isInitial = true ∧ oneColumn.fields.values ≠ [] ∧
      turn.answer.toOption.bind (·.answer.map (·.derivations)) = some [] := by
  refine ⟨⟨rfl, rfl, _, _, rfl, rfl⟩, rfl, ?_⟩
  decide +kernel

end Router

end ChartDialogue
