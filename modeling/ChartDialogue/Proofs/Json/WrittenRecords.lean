import ChartDialogue.Json.Printer
import ChartDialogue.Proofs.Json.Decoding

/-! # Decoding what was written

A record that was written by name is decoded field by field: each field finds what was written under
its name, and nothing where the field was left out. Lists, maps and words come back as they were.
-/

namespace ChartDialogue

theorem fieldsToJson_eq_map : (fields : List (String × Outline)) →
    fieldsToJson fields = fields.map fun field => (field.1, field.2.toJson)
  | [] => rfl
  | (name, part) :: rest => by
    rw [fieldsToJson, fieldsToJson_eq_map rest, List.map_cons]

theorem partsToJson_eq_map : (parts : List Outline) → partsToJson parts = parts.map Outline.toJson
  | [] => rfl
  | part :: rest => by
    rw [partsToJson, partsToJson_eq_map rest, List.map_cons]

theorem lookup_fieldsToJson (name : String) (fields : List (String × Outline)) :
    (fieldsToJson fields).lookup name = (fields.lookup name).map Outline.toJson := by
  rw [fieldsToJson_eq_map]
  induction fields with
  | nil => rfl
  | cons field rest induction =>
    rw [List.map_cons, List.lookup_cons, List.lookup_cons, induction]
    cases name == field.1 <;> rfl

theorem find?_fieldsToJson (name : String) (fields : List (String × Outline)) :
    (Members.ofList (fieldsToJson fields)).find? name =
      (fields.reverse.lookup name).map Outline.toJson := by
  rw [Members.find?_eq_lookup, Members.toList_ofList, Entries.lookup_ofList,
    ← lookup_fieldsToJson, fieldsToJson_eq_map, fieldsToJson_eq_map, List.map_reverse]

namespace Decode

variable {α β : Type}

/-! ## Fields -/

theorem field?_of_some {members : Members none} {name : String} {json : Json}
    {decode : Json → Decoded α} (found : members.find? name = some json) :
    field? members name decode = some <$> decode json := by
  rw [field?, found]

theorem field?_of_map {members : Members none} {name : String} {decode : Json → Decoded β}
    {write : α → Json} {kept : α → β} {given : Option α}
    (found : members.find? name = given.map write)
    (decodes : ∀ value ∈ given, decode (write value) = .ok (kept value)) :
    field? members name decode = .ok (given.map kept) := by
  rw [field?, found]
  cases given with
  | none => rfl
  | some value => exact congrArg (some <$> ·) (decodes value rfl)

theorem field?_of_written {fields : List (String × Outline)} {name : String} {part : Outline}
    {decode : Json → Decoded α} {value : α} (written : fields.reverse.lookup name = some part)
    (decodes : decode part.toJson = .ok value) :
    field? (Members.ofList (fieldsToJson fields)) name decode = .ok (some value) := by
  have found := find?_fieldsToJson name fields
  rw [written] at found
  rw [field?_of_some found, decodes]
  rfl

/-! ## Values -/

theorem value_outline (json : Json) : value json.outline.toJson = .ok json := by
  rw [Json.toJson_outline]
  rfl

theorem natural_ofNat {limit number : Nat} {expected : Expected} (small : number < limit)
    (isWord : number < Word.limit) : natural limit expected (.ofNat number) = .ok number := by
  have value : (WordInteger.ofNat number).value = number :=
    congrArg Int.ofNat (Nat.mod_eq_of_lt isWord)
  rw [Json.ofNat, natural, value, if_pos (by omega), Int.toNat_natCast]

/-- An optional value comes back if what it holds comes back and is not written as null. -/
theorem optional_of_ne_null {decode : Json → Decoded α} {json : Json} {value : α}
    (notNull : json ≠ .null) (decodes : decode json = .ok value) :
    optional decode json = .ok (some value) := by
  unfold optional
  split
  · exact absurd rfl notNull
  · rw [decodes]
    rfl

theorem optional_count {count? : Option Nat} (isWord : ∀ number ∈ count?, number < Word.limit) :
    optional count (Outline.optional .nat count?).toJson = .ok count? := by
  cases count? with
  | none => rfl
  | some number =>
    have small := isWord number rfl
    exact optional_of_ne_null Json.noConfusion (natural_ofNat small small)

/-! ## Lists and maps -/

theorem list_of_parts {decode : Json → Decoded α} {outline : α → Outline} {values : List α}
    (decodes : ∀ value ∈ values, decode (outline value).toJson = .ok value) :
    list decode (Outline.sequence (values.map outline)).toJson = .ok values := by
  rw [Outline.toJson, list, partsToJson_eq_map, List.map_map, List.mapM_map]
  exact (mapM_eq_ok_map decodes).trans (congrArg _ (List.map_id _))

theorem map_of_entries {decode : Json → Decoded α} {outline : α → Outline} {entries : StringMap α}
    (decodes : ∀ entry ∈ entries.entries, decode (outline entry.2).toJson = .ok entry.2) :
    map decode (Outline.record (entries.entries.map fun entry =>
      (entry.1, outline entry.2))).toJson = .ok entries := by
  have written : (Members.ofList (fieldsToJson (entries.entries.map fun entry =>
      (entry.1, outline entry.2)))).toList =
      entries.entries.map fun entry => (entry.1, (outline entry.2).toJson) := by
    rw [Members.toList_ofList, fieldsToJson_eq_map, List.map_map]
    -- The keys are in order already, so that putting the entries in changes nothing.
    exact Entries.ofList_of_ascending (List.pairwise_map.mpr entries.ascending)
  have read : (entries.entries.map fun entry => (entry.1, (outline entry.2).toJson)).mapM
      (fun (entry : String × Json) => (fun value => (entry.1, value)) <$> decode entry.2) =
      .ok entries.entries := by
    rw [List.mapM_map]
    refine (mapM_eq_ok_map fun entry member => ?_).trans (congrArg _ (List.map_id _))
    show (fun value => (entry.1, value)) <$> decode (outline entry.2).toJson = _
    rw [decodes entry member]
    rfl
  rw [Outline.toJson, Json.ofMembers, map, written]
  have result := congrArg (fun decoded => decoded >>= fun read => pure (StringMap.ofList read)) read
  refine result.trans ?_
  exact congrArg Except.ok (StringMap.ofList_entries entries)

end Decode

end ChartDialogue
