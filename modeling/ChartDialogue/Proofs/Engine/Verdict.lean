import ChartDialogue.Engine.Check
import ChartDialogue.Proofs.Grammar.LoadedNodes
import ChartDialogue.Proofs.Grammar.PathLookup

/-! # Verdicts of slots

A slot accepts a value, refuses it, or leaves it to the slots behind. Only string slots with a name
or literals of their own refuse anything. A value is overruled when a slot refuses it that no
accepting slot comes before.
-/

namespace ChartDialogue

namespace Slot

/-- Whether a slot takes a value. Colors, fields and literals are what string slots insist on; any
other slot goes by the tag. -/
def Accepts (slot : Slot) (value : TypedValue) : Prop :=
  if slot.declared = .string then
    if Rule.isColorName slot.node.lastSegment = true then value.tag = .color
    else if slot.node.lastSegment = "field" then value.tag = .field
    else match slot.node.enumeration with
      | some literals => literals.contains value.text = true
      | none => value.tag = .string
  else value.tag.denotes slot.declared = true

def Refuses (slot : Slot) (value : TypedValue) : Prop :=
  slot.declared = .string ∧
    if Rule.isColorName slot.node.lastSegment = true then value.tag ≠ .color
    else if slot.node.lastSegment = "field" then value.tag ≠ .field
    else match slot.node.enumeration with
      | some literals => literals.contains value.text = false
      | none => False

instance (slot : Slot) (value : TypedValue) : Decidable (slot.Accepts value) := by
  unfold Accepts
  cases slot.node.enumeration <;> infer_instance

instance (slot : Slot) (value : TypedValue) : Decidable (slot.Refuses value) := by
  unfold Refuses
  cases slot.node.enumeration <;> infer_instance

theorem not_refuses_of_accepts {slot : Slot} {value : TypedValue} (accepts : slot.Accepts value) :
    ¬ slot.Refuses value := by
  rintro ⟨isString, refuses⟩
  unfold Accepts at accepts
  rw [if_pos isString] at accepts
  split at accepts
  · rename_i color
    rw [if_pos color] at refuses
    exact refuses accepts
  · rename_i notColor
    rw [if_neg notColor] at refuses
    split at accepts
    · rename_i field
      rw [if_pos field] at refuses
      exact refuses accepts
    · rename_i notField
      rw [if_neg notField] at refuses
      cases literals : slot.node.enumeration with
      | none => simp [literals] at refuses
      | some known => simp_all

end Slot

namespace Engine

/-! ## The rules agree with the slot -/

theorem judgement_of_color {slot : Slot} (value : TypedValue) (isString : slot.declared = .string)
    (color : Rule.isColorName slot.node.lastSegment = true) :
    judgement Rule.defaults slot value = some (value.tag == .color) := by
  simp [judgement, Rule.defaults, Rule.applies, Rule.judge, Slot.isString, isString, color]

theorem judgement_of_field {slot : Slot} (value : TypedValue) (isString : slot.declared = .string)
    (notColor : ¬ Rule.isColorName slot.node.lastSegment = true)
    (field : slot.node.lastSegment = "field") :
    judgement Rule.defaults slot value = some (value.tag == .field) := by
  rw [field] at notColor
  simp [judgement, Rule.defaults, Rule.applies, Rule.judge, Slot.isString, isString, notColor,
    field]

/-- A font name makes no difference to the literals that are accepted. -/
theorem judgement_of_enumeration {slot : Slot} (value : TypedValue) {literals : StringSet}
    (isString : slot.declared = .string)
    (notColor : ¬ Rule.isColorName slot.node.lastSegment = true)
    (notField : slot.node.lastSegment ≠ "field")
    (enumeration : slot.node.enumeration = some literals) :
    judgement Rule.defaults slot value = some (literals.contains value.text) := by
  by_cases font : Rule.isFontName slot.node.lastSegment = true <;>
    simp [judgement, Rule.defaults, Rule.applies, Rule.judge, Slot.isString, isString, notColor,
      notField, SchemaNode.isEnumeration, enumeration, font]

theorem judgement_of_plain_string {slot : Slot} (value : TypedValue)
    (isString : slot.declared = .string)
    (notColor : ¬ Rule.isColorName slot.node.lastSegment = true)
    (notField : slot.node.lastSegment ≠ "field")
    (enumeration : slot.node.enumeration = none) :
    judgement Rule.defaults slot value = if value.tag = .string then some true else none := by
  by_cases font : Rule.isFontName slot.node.lastSegment = true <;>
    simp [judgement, Rule.defaults, Rule.applies, Rule.judge, Slot.isString, isString, notColor,
      notField, SchemaNode.isEnumeration, enumeration, font, Tag.denotes, Tag.ofDeclared?,
      eq_comm (a := Tag.string)]

theorem judgement_of_ne_string {slot : Slot} (value : TypedValue)
    (notString : slot.declared ≠ .string) :
    judgement Rule.defaults slot value =
      if value.tag.denotes slot.declared = true then some true else none := by
  by_cases boolean : slot.declared = .boolean <;> by_cases number : slot.declared = .number <;>
    simp_all [judgement, Rule.defaults, Rule.applies, Rule.judge, Slot.isString]

theorem judgement_defaults (slot : Slot) (value : TypedValue) :
    judgement Rule.defaults slot value =
      if slot.Accepts value then some true
      else if slot.Refuses value then some false
      else none := by
  by_cases isString : slot.declared = .string
  · by_cases color : Rule.isColorName slot.node.lastSegment = true
    · rw [judgement_of_color value isString color]
      by_cases tagged : value.tag = .color <;>
        simp [Slot.Accepts, Slot.Refuses, isString, color, tagged]
    · by_cases field : slot.node.lastSegment = "field"
      · rw [judgement_of_field value isString color field]
        by_cases tagged : value.tag = .field <;>
          simp_all [Slot.Accepts, Slot.Refuses]
      · cases enumeration : slot.node.enumeration with
        | some literals =>
          rw [judgement_of_enumeration value isString color field enumeration]
          cases contained : literals.contains value.text <;>
            simp [Slot.Accepts, Slot.Refuses, isString, color, field, enumeration, contained]
        | none =>
          rw [judgement_of_plain_string value isString color field enumeration]
          simp [Slot.Accepts, Slot.Refuses, isString, color, field, enumeration]
  · rw [judgement_of_ne_string value isString]
    simp [Slot.Accepts, Slot.Refuses, isString]

/-! ## Overruled values -/

/-- Whether some slot refuses a value and no slot before it accepts the value. -/
def Overruled (slots : List Slot) (value : TypedValue) : Prop :=
  ∃ before slot after, slots = before ++ slot :: after ∧ slot.Refuses value ∧
    ∀ earlier ∈ before, ¬ earlier.Accepts value

theorem not_overruled_nil (value : TypedValue) : ¬ Overruled [] value := by
  rintro ⟨before, slot, after, split, _⟩
  simp at split

theorem overruled_cons_iff {slot : Slot} {rest : List Slot} {value : TypedValue} :
    Overruled (slot :: rest) value ↔
      slot.Refuses value ∨ ¬ slot.Accepts value ∧ Overruled rest value := by
  constructor
  · rintro ⟨before, other, after, split, refuses, unaccepted⟩
    cases before with
    | nil =>
      cases split
      exact .inl refuses
    | cons first before =>
      cases split
      refine .inr ⟨unaccepted slot List.mem_cons_self, before, other, after, rfl, refuses, ?_⟩
      exact fun earlier member => unaccepted earlier (List.mem_cons_of_mem slot member)
  · rintro (refuses | ⟨silent, before, other, after, rfl, refuses, unaccepted⟩)
    · exact ⟨[], slot, rest, rfl, refuses, by simp⟩
    · refine ⟨slot :: before, other, after, rfl, refuses, ?_⟩
      intro earlier member
      rcases List.mem_cons.mp member with equal | member
      · rw [equal]; exact silent
      · exact unaccepted earlier member

instance decidableOverruled (value : TypedValue) : (slots : List Slot) →
    Decidable (Overruled slots value)
  | [] => .isFalse (not_overruled_nil value)
  | _ :: rest =>
    have := decidableOverruled value rest
    decidable_of_iff' _ overruled_cons_iff

/-- Among typed slots of which one has a say, a value is accepted unless it is overruled. Whatever
lies behind the typed slots plays no part in it. -/
theorem checkSlots_of_decided {value : TypedValue} (back : List Slot) : {front : List Slot} →
    (∀ slot ∈ front, slot.declared ≠ .untyped) →
    (∃ slot ∈ front, slot.Accepts value ∨ slot.Refuses value) →
      checkSlots Rule.defaults value (front ++ back) = .ok true ∧
        ¬ Overruled (front ++ back) value ∨
      checkSlots Rule.defaults value (front ++ back) = .ok false ∧
        Overruled (front ++ back) value
  | [], _, decided => by
    rcases decided with ⟨_, impossible, _⟩
    cases impossible
  | slot :: rest, typed, decided => by
    have slotTyped := typed slot List.mem_cons_self
    rw [List.cons_append, overruled_cons_iff, checkSlots, if_neg slotTyped,
      judgement_defaults]
    -- The first slot with a say decides, and one without leaves it to the rest.
    by_cases accepts : slot.Accepts value
    · have notRefuses := Slot.not_refuses_of_accepts accepts
      simp [accepts, notRefuses]
    · by_cases refuses : slot.Refuses value
      · simp [accepts, refuses]
      · have restDecided : ∃ slot ∈ rest, slot.Accepts value ∨ slot.Refuses value := by
          rcases decided with ⟨other, member, decides⟩
          rcases List.mem_cons.mp member with equal | member
          · subst equal
            exact absurd decides (by simp [accepts, refuses])
          · exact ⟨other, member, decides⟩
        have induction := checkSlots_of_decided back
          (fun other member => typed other (List.mem_cons_of_mem slot member)) restDecided
        simpa [accepts, refuses] using induction

end Engine

end ChartDialogue
