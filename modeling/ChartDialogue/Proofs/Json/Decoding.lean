import ChartDialogue.Json.Decode

/-! # Decoding that succeeds

What is known about a value once it was decoded: the steps on the way succeeded, and what had to be
there was there.
-/

namespace ChartDialogue

theorem exists_of_bind_ok {ε α β : Type} {first : Except ε α} {next : α → Except ε β} {result : β}
    (succeeds : first >>= next = .ok result) :
    ∃ value, first = .ok value ∧ next value = .ok result := by
  cases first with
  | error fault => cases succeeds
  | ok value => exact ⟨value, rfl, succeeds⟩

theorem isOk_ok {ε α : Type} (value : α) : (Except.ok value : Except ε α).isOk = true := rfl

theorem isOk_error {ε α : Type} (fault : ε) : (Except.error fault : Except ε α).isOk = false := rfl

theorem mapM_eq_ok_map {ε α β : Type} {action : α → Except ε β} {result : α → β} {list : List α}
    (each : ∀ item ∈ list, action item = .ok (result item)) :
    list.mapM action = .ok (list.map result) := by
  induction list with
  | nil => rfl
  | cons item list induction =>
    have others := induction fun other member => each other (List.mem_cons_of_mem item member)
    rw [List.mapM_cons, each item List.mem_cons_self, others]
    rfl

theorem exists_of_mem_results {ε α β : Type} {action : α → Except ε β} :
    {list : List α} → {results : List β} → list.mapM action = .ok results →
      ∀ result ∈ results, ∃ value ∈ list, action value = .ok result
  | [], _, ran => by
    cases ran
    exact fun _ member => nomatch member
  | first :: rest, _, ran => by
    rw [List.mapM_cons] at ran
    rcases exists_of_bind_ok ran with ⟨head, headRead, ran⟩
    rcases exists_of_bind_ok ran with ⟨tail, tailRead, ran⟩
    cases ran
    intro result member
    rcases List.mem_cons.mp member with rfl | later
    · exact ⟨first, List.mem_cons_self, headRead⟩
    · rcases exists_of_mem_results tailRead result later with ⟨value, inside, read⟩
      exact ⟨value, List.mem_cons_of_mem first inside, read⟩

namespace Decode

variable {α : Type}

theorem of_required_ok {name : String} {found : Option α} {value : α}
    (present : required name found = .ok value) : found = some value := by
  cases found with
  | none => cases present
  | some other => cases present; rfl

theorem find?_of_field?_value {members : Members none} {name : String} {value : Json}
    (found : field? members name Decode.value = .ok (some value)) :
    members.find? name = some value := by
  unfold field? at found
  split at found
  · rename_i member present
    cases found
    exact present
  · cases found

theorem getElem?_of_element_value {shape : RecordShape} {elements : List Json} {index : Nat}
    {value : Json} (found : element shape elements index Decode.value = .ok value) :
    elements[index]? = some value := by
  unfold element at found
  split at found
  · rename_i member present
    cases found
    exact present
  · cases found

/-! ## Optional values -/

section Optional

variable {decode : Json → Decoded α} {holds : α → Prop}

theorem forall_of_optional
    (each : ∀ json value, json ≠ .null → decode json = .ok value → holds value)
    {json : Json} {read : Option α} (decoded : optional decode json = .ok read) :
    ∀ value ∈ read, holds value := by
  unfold optional at decoded
  split at decoded
  · cases decoded
    exact fun _ impossible => nomatch impossible
  · rename_i notNull
    rcases exists_of_bind_ok decoded with ⟨value, valueRead, kept⟩
    cases kept
    rintro _ ⟨⟩
    exact each json value notNull valueRead

theorem forall_of_field?_optional
    (each : ∀ json value, json ≠ .null → decode json = .ok value → holds value)
    {members : Members none} {name : String} {read : Option (Option α)}
    (found : field? members name (optional decode) = .ok read) :
    ∀ value ∈ read.getD none, holds value := by
  unfold field? at found
  split at found
  · rcases exists_of_bind_ok found with ⟨_, decoded, kept⟩
    cases kept
    exact forall_of_optional each decoded
  · cases found
    exact fun _ impossible => nomatch impossible

theorem forall_of_element?_optional
    (each : ∀ json value, json ≠ .null → decode json = .ok value → holds value)
    {elements : List Json} {index : Nat} {read : Option (Option α)}
    (found : element? elements index (optional decode) = .ok read) :
    ∀ value ∈ read.getD none, holds value := by
  unfold element? at found
  split at found
  · rcases exists_of_bind_ok found with ⟨_, decoded, kept⟩
    cases kept
    exact forall_of_optional each decoded
  · cases found
    exact fun _ impossible => nomatch impossible

end Optional

/-! ## Records -/

theorem of_record_ok {shape : RecordShape} {byName : Members none → Decoded α}
    {byPosition : List Json → Decoded α} {json : Json} {value : α}
    (decoded : record shape byName byPosition json = .ok value) :
    (∃ members, json = .object members ∧ byName members = .ok value) ∨
      ∃ elements, json = .array elements ∧ byPosition elements = .ok value := by
  unfold record at decoded
  split at decoded
  · exact .inl ⟨_, rfl, decoded⟩
  · rcases exists_of_bind_ok decoded with ⟨result, read, rest⟩
    split at rest
    · cases rest
    · cases rest
      exact .inr ⟨_, rfl, read⟩
  · cases decoded

end Decode

end ChartDialogue
