import ChartDialogue.Proofs.Engine.Verdict
import ChartDialogue.Resource.Bundle

/-! # Checking what is proposed

Every proposal comes from a typed slot that has a say on it, so checking a proposal always gives an
answer: it is accepted unless it is overruled. A slot takes its own proposals, except that fonts are
proposed for a font name whatever its literals are.
-/

namespace ChartDialogue.Engine

variable {σ : Type} [WordSource σ]

/-! ## Where proposals come from -/

theorem mem_poolOfSlots {rules : List Rule} {value : TypedValue} : {slots : List Slot} →
    {source : σ} → value ∈ (poolOfSlots rules slots source).1 →
      ∃ slot ∈ slots, ∃ source : σ, value ∈ (proposals rules slot source).1
  | [], _, proposed => nomatch proposed
  | slot :: rest, source, proposed => by
    rcases List.mem_append.mp proposed with own | other
    · exact ⟨slot, List.mem_cons_self, source, own⟩
    · rcases mem_poolOfSlots other with ⟨proposing, member, later, proposed⟩
      exact ⟨proposing, List.mem_cons_of_mem slot member, later, proposed⟩

theorem mem_of_choose {α : Type} {values : List α} {source : σ} {value : α}
    (chosen : (Draw.choose values source).1 = some value) : value ∈ values := by
  cases values with
  | nil => cases chosen
  | cons first rest => exact List.mem_of_getElem? chosen

theorem values_none_subset (engine : Engine) (query : List String) (source : σ) :
    ∃ drawn, (engine.values query none source).1 = .ok drawn ∧
      ∀ value ∈ drawn, value ∈ (engine.pool query source).1 := by
  refine ⟨_, rfl, ?_⟩
  intro value member
  exact mem_of_choose (Option.mem_toList.mp member)

/-! ## What a slot proposes -/

theorem proposals_of_governing {rules : List Rule} {slot : Slot} {rule : Rule}
    (governs : governing? rules slot = some rule) (source : σ) :
    proposals rules slot source = rule.propose slot source := by
  rw [proposals, governs]

theorem governing?_of_color {slot : Slot} (isString : slot.declared = .string)
    (color : Rule.isColorName slot.node.lastSegment = true) :
    governing? Rule.defaults slot = some .color := by
  simp [governing?, Rule.defaults, Rule.applies, Slot.isString, isString, color]

theorem governing?_of_field {slot : Slot} (isString : slot.declared = .string)
    (notColor : ¬ Rule.isColorName slot.node.lastSegment = true)
    (field : slot.node.lastSegment = "field") :
    governing? Rule.defaults slot = some .field := by
  rw [field] at notColor
  simp [governing?, Rule.defaults, Rule.applies, Slot.isString, isString, notColor, field]

theorem governing?_of_string {slot : Slot} (isString : slot.declared = .string)
    (notColor : ¬ Rule.isColorName slot.node.lastSegment = true)
    (notField : slot.node.lastSegment ≠ "field") :
    governing? Rule.defaults slot =
      if Rule.isFontName slot.node.lastSegment = true then some .font
      else if slot.node.isEnumeration = true then some .enumeration
      else some .generic := by
  by_cases font : Rule.isFontName slot.node.lastSegment = true <;>
    by_cases enumeration : slot.node.isEnumeration = true <;>
      simp [governing?, Rule.defaults, Rule.applies, Slot.isString, isString, notColor, notField,
        font, enumeration]

theorem governing?_of_ne_string {slot : Slot} (notString : slot.declared ≠ .string)
    (typed : slot.declared ≠ .untyped) :
    governing? Rule.defaults slot =
      if slot.declared = .boolean then some .boolean
      else if slot.declared = .number then some .number
      else some .generic := by
  by_cases boolean : slot.declared = .boolean <;> by_cases number : slot.declared = .number <;>
    simp_all [governing?, Rule.defaults, Rule.applies, Slot.isString]

theorem typed_of_mem_proposals {slot : Slot} {source : σ} {value : TypedValue}
    (proposed : value ∈ (proposals Rule.defaults slot source).1) :
    slot.declared ≠ .untyped := by
  intro untyped
  rw [proposals, governing?, if_pos untyped] at proposed
  cases proposed

theorem tag_of_mem_tagged {tag : Tag} {texts : List String} {value : TypedValue}
    (member : value ∈ Rule.tagged tag texts) :
    value.tag = tag ∧ ∃ text ∈ texts, value.literal = .string text := by
  rcases List.mem_map.mp member with ⟨text, inside, rfl⟩
  exact ⟨rfl, text, inside, rfl⟩

theorem tag_of_mem_pair {first second value : TypedValue} {tag : Tag}
    (member : value ∈ [first, second]) (firstTag : first.tag = tag) (secondTag : second.tag = tag) :
    value.tag = tag := by
  rcases List.mem_cons.mp member with rfl | other
  · exact firstTag
  · rw [List.mem_singleton.mp other, secondTag]

theorem accepts_or_font_of_string {slot : Slot} {source : σ} {value : TypedValue}
    (isString : slot.declared = .string)
    (notColor : ¬ Rule.isColorName slot.node.lastSegment = true)
    (notField : slot.node.lastSegment ≠ "field")
    (proposed : value ∈ (proposals Rule.defaults slot source).1) :
    slot.Accepts value ∨
      slot.Refuses value ∧ Rule.isFontName slot.node.lastSegment = true ∧
        slot.node.isEnumeration = true := by
  have governs := governing?_of_string isString notColor notField
  by_cases font : Rule.isFontName slot.node.lastSegment = true
  · rw [if_pos font] at governs
    rw [proposals_of_governing governs] at proposed
    have tagged := (tag_of_mem_tagged proposed).1
    cases enumeration : slot.node.enumeration with
    | none =>
      exact .inl (by simp [Slot.Accepts, isString, notColor, notField, enumeration, tagged])
    | some literals =>
      cases contained : literals.contains value.text <;>
        simp [Slot.Accepts, Slot.Refuses, SchemaNode.isEnumeration, isString, notColor, notField,
          font, enumeration, contained]
  · rw [if_neg font] at governs
    cases enumeration : slot.node.enumeration with
    | none =>
      have notEnumeration : ¬ slot.node.isEnumeration = true := by
        simp [SchemaNode.isEnumeration, enumeration]
      rw [if_neg notEnumeration] at governs
      rw [proposals_of_governing governs, Rule.propose, Slot.isString, isString] at proposed
      have tagged := (tag_of_mem_tagged proposed).1
      exact .inl (by simp [Slot.Accepts, isString, notColor, notField, enumeration, tagged])
    | some literals =>
      have isEnumeration : slot.node.isEnumeration = true := by
        simp [SchemaNode.isEnumeration, enumeration]
      rw [if_pos isEnumeration] at governs
      rw [proposals_of_governing governs, Rule.propose, enumeration] at proposed
      rcases tag_of_mem_tagged proposed with ⟨_, text, inside, literal⟩
      have contained := StringSet.contains_iff_mem_toList.mpr inside
      exact .inl (by
        simp [Slot.Accepts, isString, notColor, notField, enumeration, TypedValue.text, literal,
          contained])

theorem accepts_of_ne_string {slot : Slot} {source : σ} {value : TypedValue}
    (notString : slot.declared ≠ .string)
    (proposed : value ∈ (proposals Rule.defaults slot source).1) : slot.Accepts value := by
  have governs := governing?_of_ne_string notString (typed_of_mem_proposals proposed)
  rw [Slot.Accepts, if_neg notString]
  by_cases boolean : slot.declared = .boolean
  · rw [if_pos boolean] at governs
    rw [proposals_of_governing governs] at proposed
    have tagged : value.tag = .boolean := tag_of_mem_pair proposed rfl rfl
    simp [boolean, tagged, Tag.denotes, Tag.ofDeclared?]
  · by_cases number : slot.declared = .number
    · rw [if_neg boolean, if_pos number] at governs
      rw [proposals_of_governing governs] at proposed
      have tagged : value.tag = .number := tag_of_mem_pair proposed rfl rfl
      simp [number, tagged, Tag.denotes, Tag.ofDeclared?]
    · rw [if_neg boolean, if_neg number] at governs
      have plain : slot.isString = false := by simpa [Slot.isString] using notString
      rw [proposals_of_governing governs, Rule.propose, plain] at proposed
      cases proposed

/-- A slot takes what it proposes, unless a font is proposed that is not among its literals. -/
theorem accepts_or_font_of_mem_proposals {slot : Slot} {source : σ} {value : TypedValue}
    (proposed : value ∈ (proposals Rule.defaults slot source).1) :
    slot.Accepts value ∨
      slot.Refuses value ∧ Rule.isFontName slot.node.lastSegment = true ∧
        slot.node.isEnumeration = true := by
  by_cases isString : slot.declared = .string
  · by_cases color : Rule.isColorName slot.node.lastSegment = true
    · rw [proposals_of_governing (governing?_of_color isString color)] at proposed
      have tagged := (tag_of_mem_tagged proposed).1
      exact .inl (by simp [Slot.Accepts, isString, color, tagged])
    · by_cases field : slot.node.lastSegment = "field"
      · rw [proposals_of_governing (governing?_of_field isString color field)] at proposed
        cases proposed
      · exact accepts_or_font_of_string isString color field proposed
  · exact .inl (accepts_of_ne_string isString proposed)

/-! ## Checking proposals -/

theorem mem_ofNodes {nodes : List SchemaNode} {slot : Slot} :
    slot ∈ Slot.ofNodes nodes ↔ slot.node ∈ nodes ∧ slot.declared ∈ slot.node.types := by
  simp only [Slot.ofNodes, List.mem_flatMap, List.mem_map]
  constructor
  · rintro ⟨node, member, declared, inside, rfl⟩
    exact ⟨member, inside⟩
  · rintro ⟨member, inside⟩
    exact ⟨slot.node, member, slot.declared, inside, rfl⟩

theorem mem_of_resolved {nodes : List SchemaNode} {excluded : String → Bool}
    {query : List String} {node : SchemaNode}
    (resolved : node ∈ (PathIndex.build nodes excluded).schemas query) : node ∈ nodes := by
  rcases PathLookup.lookup_eq_append (PathLookup.admitted nodes excluded) query with
      ⟨front, back, split, typed, untyped⟩
  rw [PathIndex.schemas_build, split] at resolved
  rcases List.mem_append.mp resolved with inside | behind
  · exact PathLookup.mem_of_mem_admitted (List.mem_filter.mp (typed node inside)).1
  · exact PathLookup.mem_of_mem_admitted (List.mem_filter.mp (untyped node behind)).1

theorem node_mem_of_slots {nodes : List SchemaNode} {excluded : String → Bool}
    {query : List String} {slot : Slot}
    (member : slot ∈ Slot.ofNodes ((PathIndex.build nodes excluded).schemas query)) :
    slot.node ∈ nodes :=
  mem_of_resolved (mem_ofNodes.mp member).1

theorem consistent_of_resolved {grammar : Grammar} {excluded : String → Bool}
    {query : List String} {node : SchemaNode}
    (resolved : node ∈ (PathIndex.build grammar.nodes excluded).schemas query) :
    node.Consistent :=
  grammar.consistent_of_mem (mem_of_resolved resolved)

theorem resolved_eq_append (nodes : List SchemaNode) (excluded : String → Bool)
    (query : List String) :
    ∃ front back : List SchemaNode,
      (PathIndex.build nodes excluded).schemas query = front ++ back ∧
      (∀ node ∈ front, node.typed = true) ∧ (∀ node ∈ back, node.typed = false) := by
  rcases PathLookup.lookup_eq_append (PathLookup.admitted nodes excluded) query with
      ⟨front, back, split, typed, untyped⟩
  refine ⟨front, back, (PathIndex.schemas_build _ _ query).trans split, ?_, ?_⟩
  · exact fun node member => (List.mem_filter.mp (typed node member)).2
  · exact fun node member => by simpa using (List.mem_filter.mp (untyped node member)).2

theorem typed_of_listed {nodes : List SchemaNode} {excluded : String → Bool}
    {query : List String} (asked : query ≠ [])
    (listed : ⟨query⟩ ∈ (PathIndex.build nodes excluded).paths) :
    (PathIndex.build nodes excluded).schemas query ≠ [] ∧
      ∀ node ∈ (PathIndex.build nodes excluded).schemas query, node.typed = true := by
  rw [PathIndex.schemas_of_mem_paths listed asked]
  constructor
  · rcases (PathIndex.mem_paths_build_iff.mp listed).2 with ⟨node, member, equal⟩
    exact List.ne_nil_of_mem (List.mem_filter.mpr ⟨member, decide_eq_true equal⟩)
  · intro node member
    exact (List.mem_filter.mp (List.mem_filter.mp member).1).2

theorem ne_untyped_of_typed {nodes : List SchemaNode}
    (consistent : ∀ node ∈ nodes, node.Consistent) (typed : ∀ node ∈ nodes, node.typed = true) :
    ∀ slot ∈ Slot.ofNodes nodes, slot.declared ≠ .untyped := by
  intro slot member sentinel
  rcases mem_ofNodes.mp member with ⟨inside, declared⟩
  exact (consistent slot.node inside).typed (typed slot.node inside) (sentinel ▸ declared)

theorem slots_eq_append (grammar : Grammar) (excluded : String → Bool) (query : List String) :
    ∃ front back : List Slot,
      Slot.ofNodes ((PathIndex.build grammar.nodes excluded).schemas query) = front ++ back ∧
      (∀ slot ∈ front, slot.declared ≠ .untyped) ∧ (∀ slot ∈ back, slot.declared = .untyped) := by
  rcases resolved_eq_append grammar.nodes excluded query with ⟨front, back, split, typed, untyped⟩
  have consistent : ∀ node ∈ front ++ back, node.Consistent := fun node member =>
    consistent_of_resolved (split ▸ member)
  refine ⟨Slot.ofNodes front, Slot.ofNodes back, ?_, ?_, ?_⟩
  · rw [split]
    exact List.flatMap_append
  · exact ne_untyped_of_typed
      (fun node inside => consistent node (List.mem_append_left back inside)) typed
  · intro slot member
    rcases mem_ofNodes.mp member with ⟨behind, declared⟩
    rw [(consistent _ (List.mem_append_right front behind)).untyped (untyped _ behind)] at declared
    exact List.mem_singleton.mp declared

theorem check_of_resolved {engine : Engine} {query : List String} {value : TypedValue}
    (leads : engine.paths.schemas query ≠ []) :
    engine.check query value =
      (checkSlots engine.rules value (Slot.ofNodes (engine.paths.schemas query))).mapError
        .malformed := by
  unfold check
  cases found : engine.paths.schemas query with
  | nil => exact absurd found leads
  | cons node rest => rfl

theorem check_of_slots {engine : Engine} {query : List String} {value : TypedValue}
    (nonempty : Slot.ofNodes (engine.paths.schemas query) ≠ []) :
    engine.check query value =
      (checkSlots engine.rules value (Slot.ofNodes (engine.paths.schemas query))).mapError
        .malformed := by
  apply check_of_resolved
  intro empty
  rw [empty] at nonempty
  exact nonempty rfl

theorem decided_of_mem_pool {front back : List Slot} {source : σ} {value : TypedValue}
    (untyped : ∀ slot ∈ back, slot.declared = .untyped)
    (proposed : value ∈ (poolOfSlots Rule.defaults (front ++ back) source).1) :
    ∃ slot ∈ front, slot.Accepts value ∨ slot.Refuses value := by
  rcases mem_poolOfSlots proposed with ⟨slot, member, later, own⟩
  have typed := typed_of_mem_proposals own
  rcases List.mem_append.mp member with inside | behind
  · refine ⟨slot, inside, ?_⟩
    exact (accepts_or_font_of_mem_proposals own).imp id And.left
  · exact absurd (untyped slot behind) typed

/-- A proposal is always judged: it is accepted unless it is overruled. What is drawn for a query is
one of its proposals. -/
theorem check_proposed (grammar : Grammar) (excluded : StringSet) (store : Store)
    (query : List String) (source : σ) :
    let engine := (Resources.build grammar excluded store).engine
    let slots := Slot.ofNodes (engine.paths.schemas query)
    (∃ drawn, (engine.values query none source).1 = .ok drawn ∧
      ∀ value ∈ drawn, value ∈ (engine.pool query source).1) ∧
    ∀ value ∈ (engine.pool query source).1,
      (engine.check query value = .ok true ↔ ¬ Overruled slots value) ∧
      (engine.check query value = .ok false ↔ Overruled slots value) := by
  intro engine slots
  refine ⟨values_none_subset engine query source, ?_⟩
  intro value proposed
  rcases slots_eq_append grammar excluded.contains query with ⟨front, back, split, typed, untyped⟩
  have slotsSplit : slots = front ++ back := split
  have proposedSplit : value ∈ (poolOfSlots Rule.defaults (front ++ back) source).1 := by
    rw [← slotsSplit]
    exact proposed
  have decided := decided_of_mem_pool untyped proposedSplit
  have nonempty : slots ≠ [] := by
    rcases decided with ⟨slot, member, _⟩
    rw [slotsSplit]
    exact List.append_ne_nil_of_left_ne_nil (List.ne_nil_of_mem member) back
  have checked : engine.check query value =
      (checkSlots Rule.defaults value slots).mapError .malformed := check_of_slots nonempty
  rw [checked, slotsSplit]
  rcases checkSlots_of_decided back typed decided with ⟨result, notOverruled⟩ | ⟨result, overruled⟩
  · simp [result, Except.mapError, notOverruled]
  · simp [result, Except.mapError, overruled]

def choicesDocument : Json :=
  .ofMembers [("properties", .ofMembers [
    ("a", .ofMembers [("anyOf", .array [
      .ofMembers [("type", .string "string"), ("enum", .array [.string "x"])],
      .ofMembers [("type", .string "string"), ("enum", .array [.string "y"])]])]),
    ("font", .ofMembers [("type", .string "string"), ("enum", .array [.string "Arial"])])])]

def choicesGrammar : Grammar where
  document := choicesDocument
  nodes := (descendants choicesDocument).toOption.getD []
  walked := by decide +kernel

/-- The first alternative refuses what the second one proposes. -/
theorem check_proposed_choices :
    let engine := (Resources.build choicesGrammar StringSet.empty {}).engine
    engine.check ["a"] ⟨.string "x", .enumeration⟩ = .ok true ∧
      engine.check ["a"] ⟨.string "y", .enumeration⟩ = .ok false := by
  intro engine
  have proposed := (check_proposed choicesGrammar StringSet.empty {} ["a"]
    (⟨0⟩ : MixedCounter)).2
  have first := proposed ⟨.string "x", .enumeration⟩ (by decide +kernel)
  have second := proposed ⟨.string "y", .enumeration⟩ (by decide +kernel)
  exact ⟨first.1.mpr (by decide +kernel), second.2.mpr (by decide +kernel)⟩

/-- A proposal of an alternative and a font are refused where they are proposed. -/
theorem refused_proposals :
    let engine := (Resources.build choicesGrammar StringSet.empty {}).engine
    ⟨.string "y", .enumeration⟩ ∈ (engine.pool ["a"] (⟨0⟩ : MixedCounter)).1 ∧
      (engine.check ["a"] ⟨.string "y", .enumeration⟩).toOption = some false ∧
      ⟨.string "times", .string⟩ ∈ (engine.pool ["font"] (⟨0⟩ : MixedCounter)).1 ∧
      (engine.check ["font"] ⟨.string "times", .string⟩).toOption = some false := by
  decide +kernel

end ChartDialogue.Engine
