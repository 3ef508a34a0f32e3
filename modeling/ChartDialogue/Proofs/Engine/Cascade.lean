import ChartDialogue.Proofs.Engine.Proposals
import ChartDialogue.Proofs.Grammar.NodePointers

/-! # The first slot that decides

The rules come to one scan of the slots. Every slot either decides on a value or leaves it to the
slots behind, by its declared type, its name, and what the schema of its node enumerates; the first
decision is the answer.
-/

namespace ChartDialogue

/-! ## What a slot goes by -/

def NamesColor (name : String) : Prop :=
  "color".toList <:+ name.toList ∨ "Color".toList <:+ name.toList ∨
    name = "fill" ∨ name = "stroke" ∨ name = "background"

instance (name : String) : Decidable (NamesColor name) := by
  unfold NamesColor
  infer_instance

theorem Rule.isColorName_iff {name : String} : isColorName name = true ↔ NamesColor name := by
  simp [isColorName, endsWith, NamesColor, or_assoc]

structure Slot.IsText (slot : Slot) : Prop where
  isString : slot.declared = .string
  notColor : ¬ NamesColor slot.node.lastSegment
  notField : slot.node.lastSegment ≠ "field"

theorem Slot.IsText.notColorName {slot : Slot} (text : slot.IsText) :
    ¬ Rule.isColorName slot.node.lastSegment = true :=
  mt Rule.isColorName_iff.mp text.notColor

def Slot.members? (grammar : Grammar) (slot : Slot) : Option (List Json) :=
  if slot.declared = .string then grammar.enumerated? slot.node else none

theorem TypedValue.text_eq_literalText (value : TypedValue) :
    value.text = Site.literalText value.literal := by
  cases literal : value.literal <;> simp [text, Site.literalText, literal]

theorem Grammar.contains_text_iff (grammar : Grammar) {node : SchemaNode} {members : List Json}
    {literals : StringSet} (value : TypedValue) (member : node ∈ grammar.nodes)
    (enumerated : grammar.enumerated? node = some members)
    (enumeration : node.enumeration = some literals) :
    literals.contains value.text = true ↔
      ∃ member ∈ members, Site.literalText member = Site.literalText value.literal := by
  have known := grammar.enumeration_of_mem member
  rw [enumerated, enumeration] at known
  cases known
  rw [TypedValue.text_eq_literalText]
  exact StringSet.contains_ofList.trans List.mem_map

namespace Engine

/-! ## Decisions -/

/-- The decision of a slot on a value, if it makes one. A slot without a type is a fault. A slot for
colors or for fields goes by the tag, and a slot with enumerated members goes by the text. Any other
slot takes what is tagged with its type and leaves everything else open. -/
def decision? (grammar : Grammar) (value : TypedValue) (slot : Slot) :
    Option (Except GrammarFault Bool) :=
  if slot.declared = .untyped then some (.error (.noType slot.node.fullPath))
  else if slot.declared = .string ∧ NamesColor slot.node.lastSegment then
    some (.ok (decide (value.tag = .color)))
  else if slot.declared = .string ∧ slot.node.lastSegment = "field" then
    some (.ok (decide (value.tag = .field)))
  else match slot.members? grammar with
    | some members =>
      some (.ok (decide
        (∃ member ∈ members, Site.literalText member = Site.literalText value.literal)))
    | none => if value.tag.name = slot.declared.name then some (.ok true) else none

theorem decision?_of_tag {grammar : Grammar} {slot : Slot} (value : TypedValue)
    (typed : slot.declared ≠ .untyped)
    (notColor : ¬ (slot.declared = .string ∧ NamesColor slot.node.lastSegment))
    (notField : ¬ (slot.declared = .string ∧ slot.node.lastSegment = "field"))
    (unlisted : slot.members? grammar = none) :
    decision? grammar value slot =
      (if value.tag.denotes slot.declared = true then some true else none).map .ok := by
  rw [decision?, if_neg typed, if_neg notColor, if_neg notField, unlisted]
  by_cases named : value.tag.name = slot.declared.name
  · rw [if_pos ((Tag.denotes_iff_name _ _).mpr named)]
    exact if_pos named
  · rw [if_neg (mt (Tag.denotes_iff_name _ _).mp named)]
    exact if_neg named

theorem map_judgement_of_text (grammar : Grammar) {slot : Slot} (value : TypedValue)
    (member : slot.node ∈ grammar.nodes) (text : slot.IsText) :
    (judgement Rule.defaults slot value).map .ok = decision? grammar value slot := by
  have typed : slot.declared ≠ .untyped := by simp [text.isString]
  have known := grammar.enumeration_of_mem member
  cases enumerated : grammar.enumerated? slot.node with
  | some members =>
    have listed : slot.members? grammar = some members := by
      rw [Slot.members?, if_pos text.isString, enumerated]
    rw [enumerated] at known
    have contained := grammar.contains_text_iff value member enumerated known
    rw [judgement_of_enumeration value text.isString text.notColorName text.notField known,
      decision?, if_neg typed, if_neg (text.notColor ·.2), if_neg (text.notField ·.2), listed]
    simp [← contained]
  | none =>
    have unlisted : slot.members? grammar = none := by
      rw [Slot.members?, if_pos text.isString, enumerated]
    rw [enumerated] at known
    rw [judgement_of_plain_string value text.isString text.notColorName text.notField known,
      decision?_of_tag value typed (text.notColor ·.2) (text.notField ·.2) unlisted,
      text.isString]
    cases value.tag <;> rfl

theorem map_judgement_defaults (grammar : Grammar) {slot : Slot} (value : TypedValue)
    (member : slot.node ∈ grammar.nodes) (typed : slot.declared ≠ .untyped) :
    (judgement Rule.defaults slot value).map .ok = decision? grammar value slot := by
  by_cases isString : slot.declared = .string
  · by_cases color : NamesColor slot.node.lastSegment
    · rw [judgement_of_color value isString (Rule.isColorName_iff.mpr color), decision?,
        if_neg typed, if_pos ⟨isString, color⟩]
      rfl
    · by_cases field : slot.node.lastSegment = "field"
      · have notColor := mt Rule.isColorName_iff.mp color
        rw [judgement_of_field value isString notColor field, decision?, if_neg typed,
          if_neg (color ·.2), if_pos ⟨isString, field⟩]
        rfl
      · exact map_judgement_of_text grammar value member ⟨isString, color, field⟩
  · have unlisted : slot.members? grammar = none := if_neg isString
    rw [judgement_of_ne_string value isString,
      decision?_of_tag value typed (isString ·.1) (isString ·.1) unlisted]

theorem checkSlots_defaults (grammar : Grammar) (value : TypedValue) : {slots : List Slot} →
    (∀ slot ∈ slots, slot.node ∈ grammar.nodes) →
      checkSlots Rule.defaults value slots =
        (slots.findSome? (decision? grammar value)).getD (.ok false)
  | [], _ => rfl
  | slot :: rest, inside => by
    have restInside : ∀ other ∈ rest, other.node ∈ grammar.nodes := fun other member =>
      inside other (List.mem_cons_of_mem slot member)
    rw [checkSlots, List.findSome?_cons]
    by_cases untyped : slot.declared = .untyped
    · rw [if_pos untyped, decision?, if_pos untyped]
      rfl
    · rw [if_neg untyped, ← map_judgement_defaults grammar value
        (inside slot List.mem_cons_self) untyped]
      cases judgement Rule.defaults slot value with
      | some accepted => rfl
      | none => exact checkSlots_defaults grammar value restInside

/-- A value is checked by the first decision of the slots that a query leads to, in their order.
When none of them decides, the value is not accepted. -/
theorem check_cascade (grammar : Grammar) (excluded : StringSet) (store : Store)
    (query : List String) (value : TypedValue) :
    let engine := (Resources.build grammar excluded store).engine
    let nodes := engine.paths.schemas query
    let slots : List Slot := nodes.flatMap fun node =>
      node.types.map fun declared => ⟨node, declared⟩
    engine.check query value =
      if nodes = [] then .error (.unknownPath query)
      else ((slots.findSome? (decision? grammar value)).getD (.ok false)).mapError .malformed := by
  intro engine nodes slots
  by_cases nowhere : nodes = []
  · rw [if_pos nowhere, check]
    have found : engine.paths.schemas query = [] := nowhere
    rw [found]
  · rw [if_neg nowhere, check_of_resolved nowhere, ← checkSlots_defaults]
    · rfl
    · exact fun slot member => node_mem_of_slots member

end Engine

end ChartDialogue
