import ChartDialogue.Proofs.Engine.Proposals
import ChartDialogue.Proofs.Grammar.QueryMeaning

/-! # When a check fails

A check has no answer for two reasons only. The query leads nowhere: it is empty, or no admitted
path ends with it. Or it leads to a node without a type, and no typed node that it leads to has a
rule with a judgement. Typed nodes are asked first, so a node without a type never comes before a
judgement, and a listed path never fails.
-/

namespace ChartDialogue

namespace PathLookup

variable {nodes : List SchemaNode} {excluded : String → Bool} {query : List String}

/-- Whether a query leads to some node that is not excluded: it is the node's path or the end of
it. -/
def Leads (nodes : List SchemaNode) (excluded : String → Bool) (query : List String) : Prop :=
  query ≠ [] ∧ ∃ node ∈ nodes, (∀ segment ∈ node.simplePath.segments, excluded segment = false) ∧
    (node.simplePath.segments = query ∨ query <:+ node.simplePath.segments)

instance (nodes : List SchemaNode) (excluded : String → Bool) (query : List String) :
    Decidable (Leads nodes excluded query) :=
  inferInstanceAs (Decidable (query ≠ [] ∧ ∃ node ∈ nodes, _ ∧ _))

theorem exists_isVisible {node : SchemaNode} (member : node ∈ nodes) :
    ∃ other ∈ nodes, other.simplePath = node.simplePath ∧ IsVisible nodes other := by
  by_cases hidden : ∃ other ∈ nodes, other.typed = true ∧ other.simplePath = node.simplePath
  · rcases hidden with ⟨other, inside, typed, equal⟩
    exact ⟨other, inside, equal, .inl typed⟩
  · refine ⟨node, member, rfl, .inr ?_⟩
    intro other inside typed equal
    exact hidden ⟨other, inside, typed, equal⟩

theorem exists_means_iff :
    (∃ node ∈ nodes, Means nodes excluded query node) ↔ Leads nodes excluded query := by
  constructor
  · rintro ⟨node, member, means⟩
    refine ⟨means.asked, node, member, means.admitted, ?_⟩
    exact means.reached.imp id And.right
  · rintro ⟨asked, node, member, admitted, reached⟩
    by_cases exactly : IsExact nodes excluded query
    · rcases exactly with ⟨node, member, free, equal⟩
      rcases exists_isVisible member with ⟨shown, inside, samePath, visible⟩
      rw [← samePath] at free equal
      exact ⟨shown, inside, asked, meets_eq_false_iff.mp free, visible, .inl equal⟩
    · have ends : query <:+ node.simplePath.segments := by
        rcases reached with equal | ends
        · exact equal ▸ List.suffix_refl query
        · exact ends
      rcases exists_isVisible member with ⟨shown, inside, samePath, visible⟩
      rw [← samePath] at admitted ends
      exact ⟨shown, inside, asked, admitted, visible, .inr ⟨exactly, ends⟩⟩

end PathLookup

namespace PathIndex

open PathLookup

theorem schemas_build_eq_nil_iff (nodes : List SchemaNode) (excluded : String → Bool)
    (query : List String) :
    (build nodes excluded).schemas query = [] ↔ ¬ Leads nodes excluded query := by
  rw [← List.length_eq_zero_iff, (schemas_build_perm nodes excluded query).length_eq,
    List.length_eq_zero_iff, List.filter_eq_nil_iff, ← exists_means_iff]
  simp

end PathIndex

namespace Engine

/-! ## Asking the slots -/

/-- Whether some rule that governs a slot of the node judges the value. -/
def Judges (rules : List Rule) (value : TypedValue) (node : SchemaNode) : Prop :=
  ∃ declared ∈ node.types, ∃ rule ∈ rules,
    rule.applies ⟨node, declared⟩ = true ∧ (rule.judge ⟨node, declared⟩ value).isSome = true

instance (rules : List Rule) (value : TypedValue) : DecidablePred (Judges rules value) :=
  fun node => inferInstanceAs (Decidable (∃ declared ∈ node.types, ∃ rule ∈ rules, _ ∧ _))

theorem isSome_judgement_iff {rules : List Rule} {slot : Slot} {value : TypedValue} :
    (judgement rules slot value).isSome = true ↔
      ∃ rule ∈ rules, rule.applies slot = true ∧ (rule.judge slot value).isSome = true := by
  simp [judgement, and_assoc]

theorem findSome?_judgement_eq_none_iff {rules : List Rule} {value : TypedValue}
    {nodes : List SchemaNode} :
    (Slot.ofNodes nodes).findSome? (judgement rules · value) = none ↔
      ∀ node ∈ nodes, ¬ Judges rules value node := by
  rw [List.findSome?_eq_none_iff]
  constructor
  · rintro silent node member ⟨declared, inside, judged⟩
    have slotSilent := silent ⟨node, declared⟩ (mem_ofNodes.mpr ⟨member, inside⟩)
    have decides := isSome_judgement_iff.mpr judged
    rw [slotSilent] at decides
    cases decides
  · intro silent slot member
    rcases mem_ofNodes.mp member with ⟨inside, declared⟩
    rw [← Option.not_isSome_iff_eq_none, isSome_judgement_iff]
    intro judged
    exact silent slot.node inside ⟨slot.declared, declared, judged⟩

theorem exists_judges_of_findSome? {rules : List Rule} {value : TypedValue}
    {nodes : List SchemaNode} {accepted : Bool}
    (found : (Slot.ofNodes nodes).findSome? (judgement rules · value) = some accepted) :
    ∃ node ∈ nodes, Judges rules value node := by
  by_contra silent
  push Not at silent
  rw [findSome?_judgement_eq_none_iff.mpr silent] at found
  cases found

theorem checkSlots_append {rules : List Rule} {value : TypedValue} (back : List Slot) :
    {front : List Slot} → (∀ slot ∈ front, slot.declared ≠ .untyped) →
      checkSlots rules value (front ++ back) =
        match front.findSome? (judgement rules · value) with
        | some accepted => .ok accepted
        | none => checkSlots rules value back
  | [], _ => rfl
  | slot :: rest, typed => by
    have slotTyped := typed slot List.mem_cons_self
    have restTyped : ∀ other ∈ rest, other.declared ≠ .untyped := fun other member =>
      typed other (List.mem_cons_of_mem slot member)
    rw [List.cons_append, checkSlots, if_neg slotTyped, List.findSome?_cons]
    cases judgement rules slot value with
    | some accepted => rfl
    | none => exact checkSlots_append back restTyped

theorem checkSlots_of_untyped {rules : List Rule} {value : TypedValue} {node : SchemaNode}
    {rest : List SchemaNode} (sentinel : node.types = [.untyped]) :
    checkSlots rules value (Slot.ofNodes (node :: rest)) = .error (.noType node.fullPath) := by
  have first : Slot.ofNodes (node :: rest) = ⟨node, .untyped⟩ :: Slot.ofNodes rest := by
    simp [Slot.ofNodes, sentinel]
  rw [first, checkSlots, if_pos rfl]

/-! ## Checking a query -/

section Queries

variable (grammar : Grammar) (excluded : StringSet) (store : Store) (rules : List Rule)
  (query : List String) (value : TypedValue)

inductive Checked (rules : List Rule) (query : List String) (value : TypedValue)
    (resolved : List SchemaNode) : Except CheckFault Bool → Prop
  | unknown : resolved = [] → Checked rules query value resolved (.error (.unknownPath query))
  | judged {node : SchemaNode} (accepted : Bool) :
      node ∈ resolved → node.typed = true → Judges rules value node →
      Checked rules query value resolved (.ok accepted)
  | unjudged : resolved ≠ [] → (∀ node ∈ resolved, node.typed = true) →
      Checked rules query value resolved (.ok false)
  | malformed {node : SchemaNode} :
      node ∈ resolved → node.typed = false →
      (∀ other ∈ resolved, other.typed = true → ¬ Judges rules value other) →
      Checked rules query value resolved (.error (.malformed (.noType node.fullPath)))

theorem checked_check :
    let engine := (Resources.build grammar excluded store).engine rules
    Checked rules query value (engine.paths.schemas query) (engine.check query value) := by
  intro engine
  by_cases empty : engine.paths.schemas query = []
  · have checked : engine.check query value = .error (.unknownPath query) := by
      rw [check, empty]
    rw [checked]
    exact .unknown empty
  rcases resolved_eq_append grammar.nodes excluded.contains query with
      ⟨front, back, split, typed, untyped⟩
  have resolved : engine.paths.schemas query = front ++ back := split
  have consistent : ∀ node ∈ front ++ back, node.Consistent := fun node member =>
    consistent_of_resolved (split ▸ member)
  have slotsTyped : ∀ slot ∈ Slot.ofNodes front, slot.declared ≠ .untyped :=
    ne_untyped_of_typed (fun node inside => consistent node (List.mem_append_left back inside))
      typed
  have slots : Slot.ofNodes (front ++ back) = Slot.ofNodes front ++ Slot.ofNodes back :=
    List.flatMap_append
  have sameRules : engine.rules = rules := rfl
  rw [check_of_resolved empty, resolved, slots, sameRules, checkSlots_append _ slotsTyped]
  cases found : (Slot.ofNodes front).findSome? (judgement rules · value) with
  | some accepted =>
    rcases exists_judges_of_findSome? found with ⟨node, member, judges⟩
    exact .judged accepted (List.mem_append_left back member) (typed node member) judges
  | none =>
    have silent : ∀ node ∈ front, ¬ Judges rules value node :=
      findSome?_judgement_eq_none_iff.mp found
    cases back with
    | nil =>
      rw [resolved] at empty
      refine .unjudged empty fun node member => ?_
      rw [List.append_nil] at member
      exact typed node member
    | cons node rest =>
      have notTyped : node.typed = false := untyped node List.mem_cons_self
      have behind : node ∈ front ++ node :: rest := List.mem_append_right front List.mem_cons_self
      dsimp only
      rw [checkSlots_of_untyped ((consistent node behind).untyped notTyped)]
      refine .malformed behind notTyped ?_
      intro other member mark
      rcases List.mem_append.mp member with inside | behind
      · exact silent other inside
      · rw [untyped other behind] at mark
        cases mark

end Queries

section Checked

variable {rules : List Rule} {query : List String} {value : TypedValue}
  {resolved : List SchemaNode} {result : Except CheckFault Bool}

/-- Whether a check has nothing to go by but a node without a type. -/
def Undecided (rules : List Rule) (value : TypedValue) (resolved : List SchemaNode) : Prop :=
  (∃ node ∈ resolved, node.typed = false) ∧
    ∀ node ∈ resolved, node.typed = true → ¬ Judges rules value node

instance (rules : List Rule) (value : TypedValue) (resolved : List SchemaNode) :
    Decidable (Undecided rules value resolved) :=
  inferInstanceAs (Decidable ((∃ node ∈ resolved, _) ∧ ∀ node ∈ resolved, _ → _))

theorem Checked.eq_unknown_iff (checked : Checked rules query value resolved result) :
    result = .error (.unknownPath query) ↔ resolved = [] := by
  cases checked with
  | unknown empty => simp [empty]
  | judged accepted member => simp [List.ne_nil_of_mem member]
  | unjudged leads => simp [leads]
  | malformed member => simp [List.ne_nil_of_mem member]

theorem Checked.malformed_iff (checked : Checked rules query value resolved result) :
    (∃ fault, result = .error (.malformed fault)) ↔ Undecided rules value resolved := by
  cases checked with
  | unknown empty => simp [Undecided, empty]
  | judged accepted member typed judges =>
    simp only [reduceCtorEq, exists_false, false_iff]
    exact fun undecided => undecided.2 _ member typed judges
  | unjudged leads typed =>
    simp only [reduceCtorEq, exists_false, false_iff]
    rintro ⟨⟨node, member, notTyped⟩, _⟩
    rw [typed node member] at notTyped
    cases notTyped
  | malformed member notTyped silent =>
    exact iff_of_true ⟨_, rfl⟩ ⟨⟨_, member, notTyped⟩, silent⟩

theorem Checked.isOk_iff (checked : Checked rules query value resolved result) :
    (∃ accepted, result = .ok accepted) ↔
      resolved ≠ [] ∧ ¬ Undecided rules value resolved := by
  rw [← checked.malformed_iff]
  cases checked with
  | unknown empty => simp [empty]
  | judged accepted member => simp [List.ne_nil_of_mem member]
  | unjudged leads => simp [leads]
  | malformed member => simp

theorem Checked.node_of_malformed (checked : Checked rules query value resolved result)
    {fault : GrammarFault} (malformed : result = .error (.malformed fault)) :
    ∃ node ∈ resolved, node.typed = false ∧ fault = .noType node.fullPath := by
  cases checked with
  | malformed member notTyped =>
    cases malformed
    exact ⟨_, member, notTyped, rfl⟩
  | unknown | judged | unjudged => cases malformed

end Checked

/-- A check fails for its path exactly when the query leads to no node, and for the grammar exactly
when the query is no listed path and leads to a node without a type, while no typed node has a
judgement. In all other cases it has an answer; so it has one whenever a typed node has a judgement,
and for every listed path but the empty one. -/
theorem check_error_iff (grammar : Grammar) (excluded : StringSet) (store : Store)
    (rules : List Rule) (query : List String) (value : TypedValue) :
    let engine := (Resources.build grammar excluded store).engine rules
    let resolved := engine.paths.schemas query
    let leads := PathLookup.Leads grammar.nodes excluded.contains query
    let malformed := ⟨query⟩ ∉ engine.paths.paths ∧ Undecided rules value resolved
    (engine.check query value = .error (.unknownPath query) ↔ ¬ leads) ∧
    ((∃ fault, engine.check query value = .error (.malformed fault)) ↔ malformed) ∧
    (∀ fault, engine.check query value = .error (.malformed fault) →
      ∃ node ∈ resolved, node.typed = false ∧ fault = .noType node.fullPath) ∧
    ((∃ accepted, engine.check query value = .ok accepted) ↔ leads ∧ ¬ malformed) ∧
    ((∃ node ∈ resolved, node.typed = true ∧ Judges rules value node) →
      ∃ accepted, engine.check query value = .ok accepted) ∧
    (query ≠ [] → ⟨query⟩ ∈ engine.paths.paths →
      ∃ accepted, engine.check query value = .ok accepted) := by
  intro engine resolved leads malformed
  have checked : Checked rules query value resolved (engine.check query value) :=
    checked_check grammar excluded store rules query value
  have nowhere : resolved = [] ↔ ¬ leads :=
    PathIndex.schemas_build_eq_nil_iff grammar.nodes excluded.contains query
  have somewhere : resolved ≠ [] ↔ leads := nowhere.not_left
  -- An untyped node is never found for a listed path, and nothing is for the empty one.
  have unlisted : Undecided rules value resolved ↔ malformed := by
    refine (and_iff_right_of_imp ?_).symm
    rintro ⟨⟨node, member, notTyped⟩, _⟩ listed
    have asked : query ≠ [] := (somewhere.mp (List.ne_nil_of_mem member)).1
    have typed := (typed_of_listed asked listed).2 node member
    rw [typed] at notTyped
    cases notTyped
  have answered := checked.isOk_iff
  rw [somewhere, unlisted] at answered
  refine ⟨checked.eq_unknown_iff.trans nowhere, checked.malformed_iff.trans unlisted,
    fun fault => checked.node_of_malformed, answered, ?_, ?_⟩
  · rintro ⟨node, member, typed, judges⟩
    refine checked.isOk_iff.mpr ⟨List.ne_nil_of_mem member, ?_⟩
    exact fun undecided => undecided.2 node member typed judges
  · intro asked listed
    refine answered.mpr ⟨somewhere.mp (typed_of_listed asked listed).1, ?_⟩
    exact fun ill => ill.1 listed

def mixedDocument : Json :=
  .ofMembers [("properties", .ofMembers [
    ("a", .ofMembers [("properties", .ofMembers [("size", Json.emptyObject)])]),
    ("b", .ofMembers [("properties", .ofMembers [
      ("size", .ofMembers [("type", .string "number")])])])])]

def mixedGrammar : Grammar where
  document := mixedDocument
  nodes := (descendants mixedDocument).toOption.getD []
  walked := by decide +kernel

/-- Of a size that could be either, a number is accepted. A text is a fault, as only the node
without a type is left for it; where the number is listed it is just not accepted. -/
theorem check_error_of_sizes :
    let engine := (Resources.build mixedGrammar StringSet.empty {}).engine
    (∃ accepted, engine.check ["size"] ⟨.ofNat 1, .number⟩ = .ok accepted) ∧
      (∃ fault, engine.check ["size"] ⟨.string "s", .string⟩ = .error (.malformed fault)) ∧
      (∃ accepted, engine.check ["b", "size"] ⟨.string "s", .string⟩ = .ok accepted) ∧
      engine.check ["weight"] ⟨.string "s", .string⟩ = .error (.unknownPath ["weight"]) := by
  intro engine
  have outcome := check_error_iff mixedGrammar StringSet.empty {} Rule.defaults
  have number := (outcome ["size"] ⟨.ofNat 1, .number⟩).2.2.2.2.1
  have text := (outcome ["size"] ⟨.string "s", .string⟩).2.1
  have listed := (outcome ["b", "size"] ⟨.string "s", .string⟩).2.2.2.2.2
  have unknown := (outcome ["weight"] ⟨.string "s", .string⟩).1
  exact ⟨number (by decide +kernel), text.mpr (by decide +kernel),
    listed (by decide) (by decide +kernel), unknown.mpr (by decide +kernel)⟩

end Engine

end ChartDialogue
