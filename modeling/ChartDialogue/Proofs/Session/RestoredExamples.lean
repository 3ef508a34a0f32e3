import ChartDialogue.Proofs.Chart.RestoredRecords
import ChartDialogue.Proofs.Session.CarriedContext

/-! # Examples that come back from their JSON

An example or a response comes back from its JSON as it was exactly when no target in it is null: a
null target is written like any other, and is then read as no target. So of what is accepted, the
examples come back whose target value is not null.
-/

namespace ChartDialogue

open Decode

/-- A formula that is accepted is not null, because null stands for no formula there. -/
theorem AcceptPayload.targetFormula_ne_null {payload : Json} {request : AcceptPayload}
    (decoded : decode payload = .ok request) : request.targetFormula ≠ some .null := by
  have notNull (json read : Json) (given : json ≠ .null) (decoded : value json = .ok read) :
      read ≠ .null := by
    cases decoded
    exact given
  intro isNull
  rcases of_record_ok decoded with ⟨members, rfl, named⟩ | ⟨elements, rfl, placed⟩
  · rcases (of_decodeMembers_ok named).2 with ⟨formula, read, kept⟩
    rw [kept] at isNull
    exact forall_of_field?_optional notNull read _ isNull rfl
  · rcases (of_decodeElements_ok placed).2 with ⟨formula, read, kept⟩
    rw [kept] at isNull
    exact forall_of_element?_optional notNull read _ isNull rfl

namespace Router

theorem sized_of_contextOf {router : Router} {name : String} {payload : Json}
    {context : ChartContext} (carried : router.contextOf name payload = .ok context) :
    context.Sized := by
  unfold contextOf at carried
  cases made : ChartContext.ofRequest router.resources.strippedKeys payload.membersOrNone with
  | error fault => rw [made] at carried; cases carried
  | ok context =>
    rw [made] at carried
    cases carried
    exact ChartContext.sized_of_ofRequest made

theorem asked_of_accept {router : Router} {sessions : SessionTable} {id : String} {payload : Json} :
    ∀ call ∈ (router.accept sessions id payload).parsed, ∃ request,
      AcceptPayload.decode payload = .ok request ∧ call.asked.Sized ∧
        call.asked.targetValue = some request.targetValue ∧
        call.asked.targetFormula = request.targetFormula := by
  unfold accept
  intro call member
  cases read : AcceptPayload.decode payload with
  | error fault => simp [read] at member
  | ok request =>
    cases carried : router.contextOf "accept" payload with
    | error fault => simp [read, carried] at member
    | ok context =>
      have calls : call = ⟨{ Example.ofUtterance (sessions.session id).id request.utterance context
          with
          targetValue := some request.targetValue
          targetFormula := request.targetFormula }, true⟩ := by
        simp only [read, carried] at member
        split at member <;> exact List.mem_singleton.mp member
      rw [calls]
      exact ⟨request, rfl, sized_of_contextOf carried, rfl, rfl⟩

/-- Examples and responses come back from their JSON without the targets that are null, and so as
they were exactly when there are none. An example that is accepted comes back exactly when its
target value is not null. -/
theorem restored_records (example_ : Example) (response : Response) (router : Router)
    (sessions : SessionTable) (id : String) (payload : Json) :
    (example_.Sized →
      Example.decode example_.encode = .ok example_.withoutNulls ∧
      (Example.decode example_.encode = .ok example_ ↔ ¬ example_.HasNullTarget)) ∧
    (response.Sized →
      Response.decode response.encode = .ok response.withoutNulls ∧
      (Response.decode response.encode = .ok response ↔
        ∀ shown ∈ response.answer, ¬ shown.HasNullTarget)) ∧
    ∀ call ∈ (router.accept sessions id payload).parsed, ∃ request,
      AcceptPayload.decode payload = .ok request ∧
      (Example.decode call.asked.encode = .ok call.asked ↔ request.targetValue ≠ .null) := by
  have examples {shown : Example} (sized : shown.Sized) :
      Example.decode shown.encode = .ok shown ↔ ¬ shown.HasNullTarget := by
    rw [Example.decode_encode sized, Except.ok.injEq, Example.withoutNulls_eq_self_iff]
  refine ⟨fun sized => ⟨Example.decode_encode sized, examples sized⟩, ?_, ?_⟩
  · intro sized
    refine ⟨Response.decode_encode sized, ?_⟩
    rw [Response.decode_encode sized, Except.ok.injEq, Response.withoutNulls_eq_self_iff]
  · intro call member
    rcases asked_of_accept call member with ⟨request, read, sized, value, formula⟩
    have notNull := AcceptPayload.targetFormula_ne_null read
    refine ⟨request, read, ?_⟩
    rw [examples sized, Example.HasNullTarget, value, formula]
    simp [notNull]

theorem restored_bar_example :
    let bars := Json.ofMembers [("mark", .string "bar")]
    let payload := Json.ofMembers [
      ("utterance", .string "bars"), ("context", Json.emptyObject), ("targetValue", bars)]
    let shown : Example := { Example.ofUtterance "s1" "bars" .empty with targetValue := some bars }
    let response : Response := { answer := some shown, stats := ⟨"q", some 1, some .core⟩ }
    (bare.accept StringMap.empty "s1" payload).parsed.map (·.asked) = [shown] ∧
      Example.decode shown.encode = .ok shown ∧
      Response.decode response.encode = .ok response := by
  intro bars payload shown response
  have shownSized : shown.Sized := fun _ impossible => nomatch impossible
  have responseSized : response.Sized := by
    refine ⟨?_, ?_⟩
    · rintro _ ⟨⟩
      exact shownSized
    · rintro _ ⟨⟩
      decide
  have present : ¬ shown.HasNullTarget := by
    simp [Example.HasNullTarget, shown, bars, Json.ofMembers, Example.ofUtterance]
  have accepted : (bare.accept StringMap.empty "s1" payload).parsed.map (·.asked) = [shown] := by
    simp only [payload, shown, bars]
    decide +kernel
  have restored := restored_records shown response bare StringMap.empty "s1" payload
  refine ⟨accepted, (restored.1 shownSized).2.mpr present, ?_⟩
  refine (restored.2.1 responseSized).2.mpr ?_
  rintro _ ⟨⟩
  exact present

/-- A null target is accepted and written, and comes back as no target. -/
theorem null_target_is_lost :
    let payload := Json.ofMembers [
      ("utterance", .string "hi"), ("context", Json.emptyObject), ("targetValue", .null)]
    let built := (bare.accept StringMap.empty "s1" payload).parsed.map (·.asked)
    let restored := built.map fun shown => (Example.decode shown.encode).toOption
    built.map (·.targetValue) = [some .null] ∧
      restored.map (·.map (·.targetValue)) = [some none] ∧ restored ≠ built.map some := by
  decide +kernel

end Router

end ChartDialogue
