import ChartDialogue.Proofs.Engine.Proposals

/-! # Alternatives

A listed path leads to typed slots only, so a value is always judged there. It is accepted when some
slot takes it, unless it is overruled. Alternatives therefore are a union, in whatever order they
are written, as long as none refuses what another one takes.
-/

namespace ChartDialogue

theorem mapError_inj {ε ε' α : Type} {cause : ε → ε'} (injective : Function.Injective cause)
    {first second : Except ε α} :
    first.mapError cause = second.mapError cause ↔ first = second := by
  cases first <;> cases second <;> simp [Except.mapError, injective.eq_iff]

namespace Slot

/-- What the verdict of a slot depends on. -/
def demand (slot : Slot) : DeclaredType × String × Option StringSet :=
  (slot.declared, slot.node.lastSegment, slot.node.enumeration)

variable {slot other : Slot}

theorem untyped_of_demand_eq (same : slot.demand = other.demand) :
    slot.declared = .untyped ↔ other.declared = .untyped := by
  rw [(Prod.mk.inj same).1]

theorem accepts_of_demand_eq (value : TypedValue) (same : slot.demand = other.demand) :
    slot.Accepts value ↔ other.Accepts value := by
  rcases Prod.mk.inj same with ⟨declared, others⟩
  rcases Prod.mk.inj others with ⟨name, enumeration⟩
  unfold Accepts
  rw [declared, name, enumeration]

theorem refuses_of_demand_eq (value : TypedValue) (same : slot.demand = other.demand) :
    slot.Refuses value ↔ other.Refuses value := by
  rcases Prod.mk.inj same with ⟨declared, others⟩
  rcases Prod.mk.inj others with ⟨name, enumeration⟩
  unfold Refuses
  rw [declared, name, enumeration]

theorem exists_iff_of_perm {property : Slot → Prop} {slots others : List Slot}
    (invariant : ∀ {slot other : Slot}, slot.demand = other.demand →
      (property slot ↔ property other))
    (reordered : (others.map demand).Perm (slots.map demand)) :
    (∃ slot ∈ others, property slot) ↔ ∃ slot ∈ slots, property slot := by
  have carried {first second : List Slot} (perm : (first.map demand).Perm (second.map demand)) :
      (∃ slot ∈ first, property slot) → ∃ slot ∈ second, property slot := by
    rintro ⟨slot, member, holds⟩
    rcases List.mem_map.mp (perm.subset (List.mem_map_of_mem member)) with ⟨other, inside, same⟩
    exact ⟨other, inside, (invariant same).mpr holds⟩
  exact ⟨carried reordered, carried reordered.symm⟩

end Slot

namespace Engine

/-! ## Typed slots -/

theorem checkSlots_of_typed {value : TypedValue} : {slots : List Slot} →
    (∀ slot ∈ slots, slot.declared ≠ .untyped) →
      checkSlots Rule.defaults value slots =
        .ok (decide ((∃ slot ∈ slots, slot.Accepts value) ∧ ¬ Overruled slots value))
  | [], _ => by simp [checkSlots]
  | slot :: rest, typed => by
    have slotTyped := typed slot List.mem_cons_self
    rw [checkSlots, if_neg slotTyped, judgement_defaults]
    by_cases accepts : slot.Accepts value
    · have notRefuses := Slot.not_refuses_of_accepts accepts
      simp [accepts, notRefuses, overruled_cons_iff]
    · by_cases refuses : slot.Refuses value
      · simp [accepts, refuses, overruled_cons_iff]
      · have restTyped : ∀ other ∈ rest, other.declared ≠ .untyped := fun other member =>
          typed other (List.mem_cons_of_mem slot member)
        have induction : checkSlots Rule.defaults value rest = _ := checkSlots_of_typed restTyped
        simp [accepts, refuses, overruled_cons_iff, induction]

theorem not_overruled_of_unrefused {slots : List Slot} {value : TypedValue}
    (unrefused : ¬ ∃ slot ∈ slots, slot.Refuses value) : ¬ Overruled slots value := by
  rintro ⟨before, slot, after, rfl, refuses, _⟩
  exact unrefused ⟨slot, by simp, refuses⟩

/-! ## The order of slots -/

section Order

variable {slots : List Slot} {value : TypedValue}

theorem checkSlots_of_perm (typed : ∀ slot ∈ slots, slot.declared ≠ .untyped)
    (agreed : ¬ ((∃ slot ∈ slots, slot.Accepts value) ∧ ∃ slot ∈ slots, slot.Refuses value))
    {others : List Slot} (reordered : (others.map Slot.demand).Perm (slots.map Slot.demand)) :
    checkSlots Rule.defaults value others = checkSlots Rule.defaults value slots := by
  have accepted := Slot.exists_iff_of_perm (Slot.accepts_of_demand_eq value) reordered
  have refused := Slot.exists_iff_of_perm (Slot.refuses_of_demand_eq value) reordered
  have othersTyped : ∀ slot ∈ others, slot.declared ≠ .untyped := by
    have untyped := Slot.exists_iff_of_perm Slot.untyped_of_demand_eq reordered
    intro slot member sentinel
    rcases untyped.mp ⟨slot, member, sentinel⟩ with ⟨other, inside, sentinel⟩
    exact typed other inside sentinel
  rw [checkSlots_of_typed othersTyped, checkSlots_of_typed typed]
  -- Either none refuses the value, and then nothing overrules it, or none takes it.
  by_cases taken : ∃ slot ∈ slots, slot.Accepts value
  · have unrefused : ¬ ∃ slot ∈ slots, slot.Refuses value := fun refuses => agreed ⟨taken, refuses⟩
    have othersUnrefused := refused.not.mpr unrefused
    simp only [accepted, taken, not_overruled_of_unrefused unrefused,
      not_overruled_of_unrefused othersUnrefused]
  · simp only [accepted, taken, false_and]

theorem exists_perm_cons {slot : Slot} (member : slot ∈ slots) :
    ∃ rest, (slot :: rest).Perm slots := by
  rcases List.append_of_mem member with ⟨before, after, rfl⟩
  exact ⟨before ++ after, List.perm_middle.symm⟩

/-- When a slot refuses what another one takes, the one that is asked first decides. -/
theorem exists_orders_of_disagreement (typed : ∀ slot ∈ slots, slot.declared ≠ .untyped)
    (accepts : ∃ slot ∈ slots, slot.Accepts value) (refuses : ∃ slot ∈ slots, slot.Refuses value) :
    ∃ first second : List Slot, first.Perm slots ∧ second.Perm slots ∧
      checkSlots Rule.defaults value first = .ok true ∧
      checkSlots Rule.defaults value second = .ok false := by
  rcases accepts with ⟨taking, member, takes⟩
  rcases refuses with ⟨refusing, inside, refuses⟩
  rcases exists_perm_cons member with ⟨others, first⟩
  rcases exists_perm_cons inside with ⟨rest, second⟩
  have firstTyped : ∀ slot ∈ taking :: others, slot.declared ≠ .untyped := fun slot member =>
    typed slot (first.subset member)
  have secondTyped : ∀ slot ∈ refusing :: rest, slot.declared ≠ .untyped := fun slot member =>
    typed slot (second.subset member)
  refine ⟨taking :: others, refusing :: rest, first, second, ?_, ?_⟩
  · have notRefuses := Slot.not_refuses_of_accepts takes
    simp [checkSlots_of_typed firstTyped, overruled_cons_iff, takes, notRefuses]
  · simp [checkSlots_of_typed secondTyped, overruled_cons_iff, refuses]

theorem forall_perm_checkSlots_iff (typed : ∀ slot ∈ slots, slot.declared ≠ .untyped) :
    (∀ others : List Slot, (others.map Slot.demand).Perm (slots.map Slot.demand) →
      checkSlots Rule.defaults value others = checkSlots Rule.defaults value slots) ↔
      ¬ ((∃ slot ∈ slots, slot.Accepts value) ∧ ∃ slot ∈ slots, slot.Refuses value) := by
  constructor
  · rintro unordered ⟨accepts, refuses⟩
    rcases exists_orders_of_disagreement typed accepts refuses with
        ⟨first, second, firstPerm, secondPerm, accepted, refused⟩
    have both := unordered first (firstPerm.map _)
    rw [← unordered second (secondPerm.map _), accepted, refused] at both
    cases both
  · intro agreed others reordered
    exact checkSlots_of_perm typed agreed reordered

end Order

/-! ## Listed paths -/

section Listed

variable {grammar : Grammar} {excluded : StringSet} {store : Store} {path : SimplePath}

theorem slots_of_listed (named : path.segments ≠ [])
    (listed : path ∈ (Resources.build grammar excluded store).engine.paths.paths) :
    let slots := Slot.ofNodes
      ((Resources.build grammar excluded store).engine.paths.schemas path.segments)
    slots ≠ [] ∧ ∀ slot ∈ slots, slot.declared ≠ .untyped := by
  intro slots
  have listedPath : ⟨path.segments⟩ ∈ (PathIndex.build grammar.nodes excluded.contains).paths :=
    listed
  rcases typed_of_listed named listedPath with ⟨leads, typed⟩
  constructor
  · rcases List.exists_mem_of_ne_nil _ leads with ⟨node, member⟩
    rcases List.exists_mem_of_ne_nil _ (consistent_of_resolved member).nonempty with
        ⟨declared, inside⟩
    have slot : (⟨node, declared⟩ : Slot) ∈ slots := mem_ofNodes.mpr ⟨member, inside⟩
    exact List.ne_nil_of_mem slot
  · exact ne_untyped_of_typed (fun _ => consistent_of_resolved) typed

theorem check_of_listed (named : path.segments ≠ [])
    (listed : path ∈ (Resources.build grammar excluded store).engine.paths.paths)
    (value : TypedValue) :
    let engine := (Resources.build grammar excluded store).engine
    engine.check path.segments value =
      (checkSlots Rule.defaults value
        (Slot.ofNodes (engine.paths.schemas path.segments))).mapError .malformed :=
  check_of_slots (slots_of_listed named listed).1

/-- A value is accepted at a listed path when a slot takes it and it is not overruled; it is refused
otherwise. The order of the slots makes no difference exactly when none of them refuses what another
one takes. -/
theorem check_listed (named : path.segments ≠ [])
    (listed : path ∈ (Resources.build grammar excluded store).engine.paths.paths)
    (value : TypedValue) :
    let engine := (Resources.build grammar excluded store).engine
    let slots := Slot.ofNodes (engine.paths.schemas path.segments)
    (engine.check path.segments value = .ok true ↔
      (∃ slot ∈ slots, slot.Accepts value) ∧ ¬ Overruled slots value) ∧
    (engine.check path.segments value = .ok false ↔
      (∀ slot ∈ slots, ¬ slot.Accepts value) ∨ Overruled slots value) ∧
    ((∀ others : List Slot, (others.map Slot.demand).Perm (slots.map Slot.demand) →
      (checkSlots Rule.defaults value others).mapError .malformed =
        engine.check path.segments value) ↔
      ¬ ((∃ slot ∈ slots, slot.Accepts value) ∧ ∃ slot ∈ slots, slot.Refuses value)) := by
  intro engine slots
  have typed : ∀ slot ∈ slots, slot.declared ≠ .untyped := (slots_of_listed named listed).2
  have checked : engine.check path.segments value =
      (checkSlots Rule.defaults value slots).mapError .malformed :=
    check_of_listed named listed value
  have decided : engine.check path.segments value =
      .ok (decide ((∃ slot ∈ slots, slot.Accepts value) ∧ ¬ Overruled slots value)) := by
    rw [checked, checkSlots_of_typed typed]
    rfl
  refine ⟨?_, ?_, ?_⟩
  · rw [decided, Except.ok.injEq, decide_eq_true_eq]
  · rw [decided, Except.ok.injEq, decide_eq_false_iff_not, not_and_or, not_not]
    push Not
    rfl
  · have injective : Function.Injective CheckFault.malformed := fun _ _ => CheckFault.malformed.inj
    simp only [checked, mapError_inj injective, forall_perm_checkSlots_iff typed]

/-- Grammars that differ in the order of alternatives or of declared types agree on a value, as long
as no slot refuses it that another one takes. -/
theorem check_of_reordered (named : path.segments ≠ [])
    (listed : path ∈ (Resources.build grammar excluded store).engine.paths.paths)
    {value : TypedValue} {other : Engine} {query : List String}
    (asks : other.rules = Rule.defaults) :
    let engine := (Resources.build grammar excluded store).engine
    let slots := Slot.ofNodes (engine.paths.schemas path.segments)
    let others := Slot.ofNodes (other.paths.schemas query)
    (others.map Slot.demand).Perm (slots.map Slot.demand) →
      ¬ ((∃ slot ∈ slots, slot.Accepts value) ∧ ∃ slot ∈ slots, slot.Refuses value) →
      other.check query value = engine.check path.segments value := by
  intro engine slots others reordered agreed
  rcases slots_of_listed named listed with ⟨nonempty, typed⟩
  have othersNonempty : others ≠ [] := by
    rintro empty
    rw [empty, List.map_nil, List.nil_perm, List.map_eq_nil_iff] at reordered
    exact nonempty reordered
  rw [check_of_slots othersNonempty, asks, checkSlots_of_perm typed agreed reordered]
  exact (check_of_listed named listed value).symm

end Listed

def alternativesDocument : Json :=
  .ofMembers [("properties", .ofMembers [
    ("shape", .ofMembers [("anyOf", .array [
      .ofMembers [("type", .string "string"), ("enum", .array [.string "circle"])],
      .ofMembers [("type", .string "string"), ("enum", .array [.string "square"])]])]),
    ("fill", .ofMembers [("type", .array [.string "string", .string "null"])]),
    ("stroke", .ofMembers [("type", .array [.string "null", .string "string"])])])]

def alternativesGrammar : Grammar where
  document := alternativesDocument
  nodes := (descendants alternativesDocument).toOption.getD []
  walked := by decide +kernel

/-- The first shape is accepted. The second one is overruled, and would not be in another order. -/
theorem check_listed_shapes :
    let engine := (Resources.build alternativesGrammar StringSet.empty {}).engine
    let slots := Slot.ofNodes (engine.paths.schemas ["shape"])
    engine.check ["shape"] ⟨.string "circle", .enumeration⟩ = .ok true ∧
      engine.check ["shape"] ⟨.string "square", .enumeration⟩ = .ok false ∧
      ¬ ∀ others : List Slot, (others.map Slot.demand).Perm (slots.map Slot.demand) →
        (checkSlots Rule.defaults ⟨.string "square", .enumeration⟩ others).mapError .malformed =
          engine.check ["shape"] ⟨.string "square", .enumeration⟩ := by
  intro engine slots
  have named : (⟨["shape"]⟩ : SimplePath).segments ≠ [] := by decide
  have listed : (⟨["shape"]⟩ : SimplePath) ∈ engine.paths.paths := by decide +kernel
  have circle := check_listed named listed ⟨.string "circle", .enumeration⟩
  have square := check_listed named listed ⟨.string "square", .enumeration⟩
  refine ⟨circle.1.mpr (by decide +kernel), square.2.1.mpr (by decide +kernel), fun unordered => ?_⟩
  exact square.2.2.mp unordered (by decide +kernel)

/-- An alternative hides what a later one takes, and the order of types decides. -/
theorem hidden_alternatives :
    let engine := (Resources.build alternativesGrammar StringSet.empty {}).engine
    let slots (name : String) := Slot.ofNodes (engine.paths.schemas [name])
    ((∃ slot ∈ slots "shape", slot.Accepts ⟨.string "square", .enumeration⟩) ∧
      (engine.check ["shape"] ⟨.string "square", .enumeration⟩).toOption = some false) ∧
    ((∃ slot ∈ slots "fill", slot.Accepts ⟨.null, .null⟩) ∧
      (engine.check ["fill"] ⟨.null, .null⟩).toOption = some false) ∧
    (engine.check ["stroke"] ⟨.null, .null⟩).toOption = some true := by
  decide +kernel

end Engine

end ChartDialogue
