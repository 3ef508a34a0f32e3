import ChartDialogue.Proofs.Engine.Cascade
import ChartDialogue.Proofs.Random.Draws
import Mathlib.Data.List.Forall2

/-! # Pools

The pool of a query joins what its slots offer. Chance has a say in numbers only, so pools from
different sources of random words agree in everything else, and either all of them have a value to
draw or none has.
-/

namespace ChartDialogue

/-! ## What a slot offers -/

def NamesFont (name : String) : Prop :=
  "font".toList <:+ name.toList ∨ "Font".toList <:+ name.toList

theorem Rule.isFontName_iff {name : String} : isFontName name = true ↔ NamesFont name := by
  simp [isFontName, endsWith, NamesFont]

/-- The values that a slot offers. The literals of an enumeration are the texts of its members, each
of them once and in ascending order. -/
inductive Slot.Offers (grammar : Grammar) (slot : Slot) : List TypedValue → Prop
  | colors (isString : slot.declared = .string) (color : NamesColor slot.node.lastSegment) :
    Offers grammar slot
      [⟨.string "red", .color⟩, ⟨.string "blue", .color⟩, ⟨.string "green", .color⟩]
  | field (isString : slot.declared = .string) (field : slot.node.lastSegment = "field") :
    Offers grammar slot []
  | fonts (text : slot.IsText) (font : NamesFont slot.node.lastSegment) :
    Offers grammar slot
      [⟨.string "times", .string⟩, ⟨.string "monaco", .string⟩, ⟨.string "cursive", .string⟩]
  | literals {members : List Json} {texts : List String} (text : slot.IsText)
      (notFont : ¬ NamesFont slot.node.lastSegment)
      (enumerated : grammar.enumerated? slot.node = some members)
      (ascending : texts.Pairwise (· < ·))
      (each : ∀ text, text ∈ texts ↔ ∃ member ∈ members, Site.literalText member = text) :
    Offers grammar slot (texts.map fun text => ⟨.string text, .enumeration⟩)
  | placeholder (text : slot.IsText) (notFont : ¬ NamesFont slot.node.lastSegment)
      (unlisted : grammar.enumerated? slot.node = none) :
    Offers grammar slot [⟨.string "XXYYZZ", .string⟩]
  | truthValues (boolean : slot.declared = .boolean) :
    Offers grammar slot [⟨.bool true, .boolean⟩, ⟨.bool false, .boolean⟩]
  | numbers {whole tenths : Nat} {fraction : Double} (number : slot.declared = .number)
      (below : whole < 50) (positive : 1 ≤ tenths) (small : tenths ≤ 9)
      (nearest : Double.ofQuotient? false tenths 10 = some fraction) :
    Offers grammar slot [⟨.ofNat whole, .number⟩, ⟨.number (.double fraction), .number⟩]
  | nothing (notString : slot.declared ≠ .string) (notBoolean : slot.declared ≠ .boolean)
      (notNumber : slot.declared ≠ .number) :
    Offers grammar slot []

theorem Double.ofQuotient?_tenths :
    ∀ tenths < 9, ofQuotient? false (tenths + 1) 10 = some (ofTenths (tenths + 1)) := by
  decide +kernel

namespace Engine

variable {σ τ : Type} [WordSource σ] [WordSource τ]

theorem offers_of_text (grammar : Grammar) {slot : Slot} (member : slot.node ∈ grammar.nodes)
    (text : slot.IsText) (source : σ) :
    slot.Offers grammar (proposals Rule.defaults slot source).1 := by
  have governs := governing?_of_string text.isString text.notColorName text.notField
  -- A font name goes before the literals, other than when a value is checked.
  by_cases font : NamesFont slot.node.lastSegment
  · rw [if_pos (Rule.isFontName_iff.mpr font)] at governs
    rw [proposals_of_governing governs]
    exact .fonts text font
  · rw [if_neg (mt Rule.isFontName_iff.mp font)] at governs
    have known := grammar.enumeration_of_mem member
    cases enumerated : grammar.enumerated? slot.node with
    | some members =>
      rw [enumerated, Option.map_some] at known
      rw [if_pos (by simp [SchemaNode.isEnumeration, known])] at governs
      rw [proposals_of_governing governs, Rule.propose, known]
      exact .literals text font enumerated (StringSet.pairwise_toList _) fun literal =>
        StringSet.contains_iff_mem_toList.symm.trans
          (StringSet.contains_ofList.trans List.mem_map)
    | none =>
      rw [enumerated, Option.map_none] at known
      rw [if_neg (by simp [SchemaNode.isEnumeration, known])] at governs
      rw [proposals_of_governing governs, Rule.propose, Slot.isString, text.isString]
      exact .placeholder text font enumerated

theorem offers_numbers (grammar : Grammar) {slot : Slot} (number : slot.declared = .number)
    (source : σ) : slot.Offers grammar (Rule.number.propose slot source).1 := by
  have whole := Draw.below_lt .wide (by decide : 0 < 50) source
  have tenths := Draw.below_lt .wide (by decide : 0 < 9) (Draw.below .wide 50 source).2
  exact .numbers number whole (Nat.le_add_left _ _) tenths (Double.ofQuotient?_tenths _ tenths)

theorem offers_of_ne_string (grammar : Grammar) {slot : Slot} (notString : slot.declared ≠ .string)
    (typed : slot.declared ≠ .untyped) (source : σ) :
    slot.Offers grammar (proposals Rule.defaults slot source).1 := by
  have governs := governing?_of_ne_string notString typed
  by_cases boolean : slot.declared = .boolean
  · rw [if_pos boolean] at governs
    rw [proposals_of_governing governs]
    exact .truthValues boolean
  · by_cases number : slot.declared = .number
    · rw [if_neg boolean, if_pos number] at governs
      rw [proposals_of_governing governs]
      exact offers_numbers grammar number source
    · rw [if_neg boolean, if_neg number] at governs
      have plain : slot.isString = false := by simpa [Slot.isString] using notString
      rw [proposals_of_governing governs, Rule.propose, plain]
      exact .nothing notString boolean number

theorem offers_proposals (grammar : Grammar) {slot : Slot} (member : slot.node ∈ grammar.nodes)
    (source : σ) : slot.Offers grammar (proposals Rule.defaults slot source).1 := by
  by_cases isString : slot.declared = .string
  · by_cases color : NamesColor slot.node.lastSegment
    · rw [proposals_of_governing
        (governing?_of_color isString (Rule.isColorName_iff.mpr color))]
      exact .colors isString color
    · by_cases field : slot.node.lastSegment = "field"
      · rw [proposals_of_governing
          (governing?_of_field isString (mt Rule.isColorName_iff.mp color) field)]
        exact .field isString field
      · exact offers_of_text grammar member ⟨isString, color, field⟩ source
  · by_cases untyped : slot.declared = .untyped
    · rw [proposals, governing?, if_pos untyped]
      exact .nothing isString (by simp [untyped]) (by simp [untyped])
    · exact offers_of_ne_string grammar isString untyped source

theorem exists_offers_of_pool (grammar : Grammar) : {slots : List Slot} →
    (∀ slot ∈ slots, slot.node ∈ grammar.nodes) → (source : σ) →
      ∃ parts, List.Forall₂ (Slot.Offers grammar) slots parts ∧
        (poolOfSlots Rule.defaults slots source).1 = parts.flatten
  | [], _, _ => ⟨[], .nil, rfl⟩
  | slot :: rest, inside, source => by
    have own := offers_proposals grammar (inside slot List.mem_cons_self) source
    have restInside : ∀ other ∈ rest, other.node ∈ grammar.nodes := fun other member =>
      inside other (List.mem_cons_of_mem slot member)
    rcases exists_offers_of_pool grammar restInside (proposals Rule.defaults slot source).2 with
      ⟨parts, offers, joined⟩
    refine ⟨_ :: parts, .cons own offers, ?_⟩
    rw [poolOfSlots, List.flatten_cons, ← joined]

/-! ## Two sources -/

def Alike (first second : TypedValue) : Prop :=
  first = second ∨ first.tag = .number ∧ second.tag = .number

theorem forall₂_alike_self (values : List TypedValue) : List.Forall₂ Alike values values :=
  List.forall₂_same.mpr fun _ _ => .inl rfl

/-- Only the rule for numbers draws words. -/
theorem alike_propose (rule : Rule) (slot : Slot) (source : σ) (other : τ) :
    List.Forall₂ Alike (rule.propose slot source).1 (rule.propose slot other).1 := by
  cases rule with
  | number => exact .cons (.inr ⟨rfl, rfl⟩) (.cons (.inr ⟨rfl, rfl⟩) .nil)
  | color | field | font | enumeration | boolean | generic => exact forall₂_alike_self _

theorem alike_proposals (rules : List Rule) (slot : Slot) (source : σ) (other : τ) :
    List.Forall₂ Alike (proposals rules slot source).1 (proposals rules slot other).1 := by
  cases governs : governing? rules slot with
  | none =>
    rw [proposals, proposals, governs]
    exact .nil
  | some rule =>
    rw [proposals_of_governing governs, proposals_of_governing governs]
    exact alike_propose rule slot source other

theorem alike_poolOfSlots (rules : List Rule) : (slots : List Slot) → (source : σ) → (other : τ) →
    List.Forall₂ Alike (poolOfSlots rules slots source).1 (poolOfSlots rules slots other).1
  | [], _, _ => .nil
  | slot :: rest, source, other =>
    List.rel_append (alike_proposals rules slot source other)
      (alike_poolOfSlots rules rest _ _)

theorem filter_eq_of_alike {first second : List TypedValue}
    (alike : List.Forall₂ Alike first second) :
    first.filter (·.tag ≠ .number) = second.filter (·.tag ≠ .number) := by
  induction alike with
  | nil => rfl
  | cons head _ induction =>
    rcases head with rfl | ⟨firstNumber, secondNumber⟩
    · simp only [List.filter_cons, induction]
    · rw [List.filter_cons_of_neg (by simp [firstNumber]),
        List.filter_cons_of_neg (by simp [secondNumber]), induction]

/-! ## Draws -/

theorem values_none_of_pool (engine : Engine) (query : List String) (source : σ) :
    (engine.pool query source).1 = [] ∧ (engine.values query none source).1 = .ok [] ∨
      ∃ value ∈ (engine.pool query source).1,
        (engine.values query none source).1 = .ok [value] := by
  rw [values]
  dsimp only
  rw [draw?]
  by_cases empty : (engine.pool query source).1 = []
  · left
    rw [empty]
    exact ⟨rfl, rfl⟩
  · right
    rcases Draw.exists_choose empty (engine.pool query source).2 with ⟨value, member, chosen⟩
    refine ⟨value, member, ?_⟩
    rw [chosen]
    rfl

theorem values_none_eq_nil_iff (engine : Engine) (query : List String) (source : σ) :
    (engine.values query none source).1 = .ok [] ↔ (engine.pool query source).1 = [] := by
  rcases values_none_of_pool engine query source with ⟨empty, drawn⟩ | ⟨value, member, drawn⟩
  · simp [empty, drawn]
  · have nonempty := List.ne_nil_of_mem member
    simp [drawn, nonempty]

/-- The pool of a query is what its slots offer, in their order. Another source of random words
changes nothing in it but numbers. A value of the pool is drawn if there is any, whatever the source
is. -/
theorem pool_of_slots (grammar : Grammar) (excluded : StringSet) (store : Store)
    (query : List String) (source : σ) (other : τ) :
    let engine := (Resources.build grammar excluded store).engine
    let slots : List Slot := (engine.paths.schemas query).flatMap fun node =>
      node.types.map fun declared => ⟨node, declared⟩
    let pool := (engine.pool query source).1
    let otherPool := (engine.pool query other).1
    (∃ parts, List.Forall₂ (Slot.Offers grammar) slots parts ∧ pool = parts.flatten) ∧
    pool.length = otherPool.length ∧
    pool.filter (·.tag ≠ .number) = otherPool.filter (·.tag ≠ .number) ∧
    (pool = [] ∧ (engine.values query none source).1 = .ok [] ∨
      ∃ value ∈ pool, (engine.values query none source).1 = .ok [value]) ∧
    ((engine.values query none source).1 = .ok [] ↔
      (engine.values query none other).1 = .ok []) := by
  intro engine slots pool otherPool
  have alike : List.Forall₂ Alike pool otherPool := alike_poolOfSlots engine.rules _ source other
  have drawn := values_none_of_pool engine query source
  refine ⟨?_, alike.length_eq, filter_eq_of_alike alike, drawn, ?_⟩
  · exact exists_offers_of_pool grammar (fun slot member => node_mem_of_slots member) source
  · rw [values_none_eq_nil_iff, values_none_eq_nil_iff, ← List.length_eq_zero_iff,
      ← List.length_eq_zero_iff (l := otherPool), alike.length_eq]

end Engine

end ChartDialogue
