import ChartDialogue.Chart.Response
import ChartDialogue.Proofs.Json.WrittenRecords

/-! # Records that come back from their JSON

Contexts, derivations and statistics come back as they were written. Of an example, a target that
is null comes back as no target; everything else comes back as it was, and so does everything else
of a response.
-/

namespace ChartDialogue

open Decode

/-! ## Contexts -/

def DataField.Sized (field : DataField) : Prop :=
  (∀ number ∈ field.uniqueCount, number < Word.limit) ∧
    ∀ number ∈ field.count, number < Word.limit

theorem DataField.decode_encode {field : DataField} (sized : field.Sized) :
    decode field.encode = .ok field := by
  rw [decode, encode, outline, Outline.toJson, Json.ofMembers, record, decodeMembers,
    field?_of_written (by rfl) (optional_count sized.2), field?_of_written (by rfl) (by rfl),
    field?_of_written (by rfl) (by rfl), field?_of_written (by rfl) (by rfl),
    field?_of_written (by rfl) (by rfl), field?_of_written (by rfl) (optional_count sized.1)]
  rfl

namespace ChartContext

def Sized (context : ChartContext) : Prop := ∀ entry ∈ context.fields.entries, entry.2.Sized

theorem decode_encode {context : ChartContext} (sized : context.Sized) :
    decode context.encode = .ok context := by
  have fields := map_of_entries fun entry member => DataField.decode_encode (sized entry member)
  rw [decode, encode, outline, Outline.toJson, Json.ofMembers, record, decodeMembers,
    field?_of_written (by rfl) (value_outline _), field?_of_written (by rfl) fields]
  rfl

end ChartContext

/-! ## Counts that were decoded -/

theorem Decode.lt_of_count (json : Json) (number : Nat) (_ : json ≠ .null)
    (read : count json = .ok number) : number < Word.limit := by
  unfold count natural at read
  split at read
  · split at read
    · rename_i inRange
      cases read
      omega
    · cases read
  · cases read

theorem DataField.sized_of_decode {json : Json} {field : DataField}
    (decoded : decode json = .ok field) : field.Sized := by
  rcases of_record_ok decoded with ⟨members, rfl, named⟩ | ⟨elements, rfl, placed⟩
  · rcases exists_of_bind_ok named with ⟨_, count, named⟩
    rcases exists_of_bind_ok named with ⟨_, _, named⟩
    rcases exists_of_bind_ok named with ⟨_, _, named⟩
    rcases exists_of_bind_ok named with ⟨_, _, named⟩
    rcases exists_of_bind_ok named with ⟨_, _, named⟩
    rcases exists_of_bind_ok named with ⟨_, uniqueCount, named⟩
    rcases exists_of_bind_ok named with ⟨_, _, named⟩
    rcases exists_of_bind_ok named with ⟨_, _, named⟩
    cases named
    exact ⟨forall_of_field?_optional lt_of_count uniqueCount,
      forall_of_field?_optional lt_of_count count⟩
  · rcases exists_of_bind_ok placed with ⟨_, _, placed⟩
    rcases exists_of_bind_ok placed with ⟨_, _, placed⟩
    rcases exists_of_bind_ok placed with ⟨_, uniqueCount, placed⟩
    rcases exists_of_bind_ok placed with ⟨_, count, placed⟩
    rcases exists_of_bind_ok placed with ⟨_, _, placed⟩
    rcases exists_of_bind_ok placed with ⟨_, _, placed⟩
    cases placed
    exact ⟨forall_of_element?_optional lt_of_count uniqueCount,
      forall_of_element?_optional lt_of_count count⟩

theorem ChartContext.sized_of_map {json : Json} {fields : StringMap DataField}
    (decoded : Decode.map DataField.decode json = .ok fields) :
    ∀ entry ∈ fields.entries, entry.2.Sized := by
  unfold Decode.map at decoded
  split at decoded
  · rcases exists_of_bind_ok decoded with ⟨entries, read, made⟩
    cases made
    intro entry member
    rcases exists_of_mem_results read entry (Entries.mem_of_mem_ofList member) with
      ⟨written, _, kept⟩
    rcases exists_of_bind_ok kept with ⟨field, fieldRead, kept⟩
    cases kept
    exact DataField.sized_of_decode fieldRead
  · cases decoded

theorem ChartContext.sized_of_ofRequest {stripped : StringSet} {payload : Members none}
    {context : ChartContext} (made : ofRequest stripped payload = .ok context) :
    context.Sized := by
  rcases exists_of_bind_ok made with ⟨fields, read, made⟩
  cases made
  unfold requestedFields at read
  split at read
  · cases read
    exact fun _ impossible => nomatch impossible
  · cases read
    exact fun _ impossible => nomatch impossible
  · exact sized_of_map read

/-! ## Examples -/

theorem Derivation.decode_encode (derivation : Derivation) :
    decode derivation.encode = .ok derivation := by
  rw [decode, encode, outline, Outline.toJson, Json.ofMembers, record, decodeMembers,
    field?_of_written (by rfl) (by rfl), field?_of_written (by rfl) (by rfl),
    field?_of_written (by rfl) (value_outline _)]
  rfl

namespace Example

def Sized (example_ : Example) : Prop := example_.context.Sized

def withoutNulls (example_ : Example) : Example := { example_ with
  targetValue := example_.targetValue.filter (· ≠ .null)
  targetFormula := example_.targetFormula.filter (· ≠ .null) }

def HasNullTarget (example_ : Example) : Prop :=
  example_.targetValue = some .null ∨ example_.targetFormula = some .null

theorem filter_ne_eq_self_iff {α : Type} [DecidableEq α] {value : α} {given : Option α} :
    given.filter (· ≠ value) = given ↔ given ≠ some value := by
  cases given <;> simp [Option.filter]

theorem withoutNulls_eq_self_iff {example_ : Example} :
    example_.withoutNulls = example_ ↔ ¬ example_.HasNullTarget := by
  rw [HasNullTarget, not_or, ← ne_eq, ← ne_eq, ← filter_ne_eq_self_iff, ← filter_ne_eq_self_iff]
  cases example_
  simp [withoutNulls]

theorem encode_members (example_ : Example) : ∃ members, example_.encode = .object members ∧
    members.find? "id" = some (.string example_.id) ∧
    members.find? "utterance" = some (.string example_.utterance) ∧
    members.find? "context" = some example_.context.encode ∧
    members.find? "targetValue" = example_.targetValue ∧
    members.find? "targetFormula" = example_.targetFormula ∧
    members.find? "predDerivations" =
      some (Outline.sequence (example_.derivations.map Derivation.outline)).toJson := by
  refine ⟨_, rfl, ?_⟩
  rcases example_ with ⟨id, utterance, context, value, formula, derivations⟩
  simp only [find?_fieldsToJson]
  cases value <;> cases formula <;>
    exact ⟨rfl, rfl, rfl, by simp [List.lookup_cons, Outline.field?, Json.toJson_outline],
      by simp [List.lookup_cons, Outline.field?, Json.toJson_outline], rfl⟩

/-- A null that is found for an optional value stands for nothing. -/
theorem field?_optional_value (members : Members none) (name : String) :
    field? members name (optional value) =
      .ok ((members.find? name).map fun json => if json = .null then none else some json) := by
  unfold field?
  cases members.find? name with
  | none => rfl
  | some json => cases json <;> rfl

theorem getD_kept (given : Option Json) :
    (given.map fun json => if json = .null then none else some json).getD none =
      given.filter (· ≠ .null) := by
  cases given with
  | none => rfl
  | some json => by_cases isNull : json = .null <;> simp [Option.filter, isNull]

theorem decode_encode {example_ : Example} (sized : example_.Sized) :
    decode example_.encode = .ok example_.withoutNulls := by
  rcases example_.encode_members with
    ⟨members, encoded, id, utterance, context, value, formula, derivations⟩
  have restored : list Derivation.decode
      (Outline.sequence (example_.derivations.map Derivation.outline)).toJson =
      .ok example_.derivations :=
    list_of_parts fun derivation _ => derivation.decode_encode
  rw [decode, encoded, record, decodeMembers, field?_of_some context, field?_of_some id,
    field?_of_some derivations, field?_of_some utterance, field?_optional_value,
    field?_optional_value, ChartContext.decode_encode sized, restored, value, formula,
    withoutNulls, ← getD_kept, ← getD_kept]
  rfl

end Example

/-! ## Responses -/

theorem ParseStatus.decode_name (status : ParseStatus) :
    decode (.string status.name) = .ok status := by
  cases status <;> rfl

namespace QueryStats

def Sized (stats : QueryStats) : Prop := ∀ number ∈ stats.size, number < Word.limit

theorem encode_members (stats : QueryStats) : ∃ members, stats.encode = .object members ∧
    members.find? "command" = some (.string stats.command) ∧
    members.find? "size" = stats.size.map Json.ofNat ∧
    members.find? "status" = stats.status.map fun status => .string status.name := by
  refine ⟨_, rfl, ?_⟩
  rcases stats with ⟨command, size, status⟩
  simp only [find?_fieldsToJson]
  cases size <;> cases status <;> exact ⟨rfl, rfl, rfl⟩

theorem decode_encode {stats : QueryStats} (sized : stats.Sized) :
    decode stats.encode = .ok stats := by
  rcases stats.encode_members with ⟨members, encoded, command, size, status⟩
  have sizeRead : field? members "size" (optional Decode.size) = .ok (stats.size.map some) := by
    apply field?_of_map size
    intro number given
    have small := sized number given
    exact optional_of_ne_null Json.noConfusion (natural_ofNat small small)
  have statusRead : field? members "status" (optional ParseStatus.decode) =
      .ok (stats.status.map some) :=
    field?_of_map status fun status _ => optional_of_ne_null Json.noConfusion status.decode_name
  rw [decode, encoded, record, decodeMembers, field?_of_some command, sizeRead, statusRead]
  rcases stats with ⟨_, _ | size, _ | status⟩ <;> rfl

end QueryStats

namespace Response

structure Sized (response : Response) : Prop where
  answer : ∀ shown ∈ response.answer, shown.Sized
  stats : response.stats.Sized

def withoutNulls (response : Response) : Response :=
  { response with answer := response.answer.map Example.withoutNulls }

theorem withoutNulls_eq_self_iff {response : Response} :
    response.withoutNulls = response ↔ ∀ shown ∈ response.answer, ¬ shown.HasNullTarget := by
  rcases response with ⟨_ | shown, lines, stats⟩
  · simp [withoutNulls]
  · simp [withoutNulls, Example.withoutNulls_eq_self_iff]

theorem encode_members (response : Response) : ∃ members, response.encode = .object members ∧
    members.find? "ex" = response.answer.map Example.encode ∧
    members.find? "lines" = (if response.lines.isEmpty then none else some response.lines).map
      (fun lines => (Outline.sequence (lines.map Outline.text)).toJson) ∧
    members.find? "stats" = some response.stats.encode := by
  refine ⟨_, rfl, ?_⟩
  rcases response with ⟨answer, lines, stats⟩
  simp only [find?_fieldsToJson]
  cases answer <;> cases lines <;> exact ⟨rfl, rfl, rfl⟩

theorem decode_encode {response : Response} (sized : response.Sized) :
    decode response.encode = .ok response.withoutNulls := by
  rcases response.encode_members with ⟨members, encoded, answer, lines, stats⟩
  have answerRead : field? members "ex" (optional Example.decode) =
      .ok (response.answer.map fun shown => some shown.withoutNulls) := by
    apply field?_of_map answer
    intro shown given
    exact optional_of_ne_null Json.noConfusion (Example.decode_encode (sized.answer shown given))
  have linesRead : field? members "lines" (list string) =
      .ok ((if response.lines.isEmpty then none else some response.lines).map id) := by
    apply field?_of_map lines
    intro lines _
    exact list_of_parts fun line _ => rfl
  rw [decode, encoded, record, decodeMembers, answerRead, linesRead, field?_of_some stats,
    QueryStats.decode_encode sized.stats]
  rcases response with ⟨_ | shown, _ | ⟨line, rest⟩, _⟩ <;> rfl

end Response

end ChartDialogue
