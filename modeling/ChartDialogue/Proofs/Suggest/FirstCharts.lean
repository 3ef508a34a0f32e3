import ChartDialogue.Proofs.Random.Draws
import ChartDialogue.Suggest.Initial
import Mathlib.Data.List.Forall2

/-! # First charts

Every first chart takes one of the templates, or one of the marks with two axes if there are none,
and binds every channel of it, in order, to a field of the data table. The field is measured as the
template wants if some field is. There are as many charts as were asked for, up to the limit, unless
there is no field at all.
-/

namespace ChartDialogue

open Suggest

/-- A channel of a template bound to a field, to one that is measured as wanted if there is one. -/
structure Suggest.Binds (fields : List DataField) (channel : String × String) (binding : Binding) :
    Prop where
  named : binding.channel = channel.1
  known : binding.field ∈ fields
  fitting : (∃ field ∈ fields, field.measurement.name = channel.2) →
    binding.field.measurement.name = channel.2

def Template.IsAvailable (templates : List Template) (template : Template) : Prop :=
  template ∈ templates ∨ templates = [] ∧ ∃ mark ∈ marks, template = fallback mark

namespace Suggest

structure IsFirstChart (fields : List DataField) (template : Template) (bindings : List Binding)
    (suggested : Derivation) : Prop where
  bound : List.Forall₂ (Binds fields) template.encoding.entries bindings
  ascending : bindings.Pairwise fun first second => first.channel < second.channel
  formula : suggested.formula = "(initial " ++ template.mark ++
    String.join (bindings.map fun binding =>
      " (" ++ binding.channel ++ " " ++ binding.field.name ++ ")") ++ ")"
  chart : ∃ encoding : Members none,
    suggested.value = .ofMembers [("mark", .string template.mark), ("encoding", .object encoding)] ∧
    encoding.toList = bindings.map fun binding => (binding.channel, .ofMembers [
      ("field", .string binding.field.name),
      ("type", .string binding.field.measurement.name)])
  unscored : suggested.score = Double.zero

variable {σ : Type} [WordSource σ]

/-! ## Channels -/

theorem mem_candidates {fields : List DataField} {wanted : String} {field : DataField}
    (candidate : field ∈ candidates fields wanted) :
    field ∈ fields ∧ ((∃ other ∈ fields, other.measurement.name = wanted) →
      field.measurement.name = wanted) := by
  unfold candidates at candidate
  dsimp only at candidate
  split at candidate
  · rename_i noneFits
    rw [List.isEmpty_iff, List.filter_eq_nil_iff] at noneFits
    refine ⟨candidate, ?_⟩
    rintro ⟨other, member, equal⟩
    exact absurd (beq_iff_eq.mpr equal) (noneFits other member)
  · rcases List.mem_filter.mp candidate with ⟨member, fits⟩
    exact ⟨member, fun _ => beq_iff_eq.mp fits⟩

theorem candidates_ne_nil {fields : List DataField} (nonempty : fields ≠ []) (wanted : String) :
    candidates fields wanted ≠ [] := by
  unfold candidates
  dsimp only
  split
  · exact nonempty
  · rename_i someFits
    exact fun empty => someFits (List.isEmpty_iff.mpr empty)

theorem forall₂_bind {fields : List DataField} (nonempty : fields ≠ [])
    (channels : List (String × String)) (source : σ) :
    List.Forall₂ (Binds fields) channels (bind fields channels source).1 := by
  induction channels generalizing source with
  | nil => exact .nil
  | cons channel rest induction =>
    -- There is always a candidate, so the channel is not skipped.
    rcases Draw.exists_choose (candidates_ne_nil nonempty channel.2) source with
        ⟨field, candidate, chosen⟩
    have first : (bind fields (channel :: rest) source).1 =
        ⟨channel.1, field⟩ ::
          (bind fields rest (Draw.choose (candidates fields channel.2) source).2).1 := by
      simp only [bind, chosen, Option.toList_some, List.map_singleton, List.singleton_append]
    rw [first]
    rcases mem_candidates candidate with ⟨known, fitting⟩
    exact .cons ⟨rfl, known, fitting⟩ (induction _)

theorem map_channel_of_forall₂ {fields : List DataField} {channels : List (String × String)}
    {bindings : List Binding} (bound : List.Forall₂ (Binds fields) channels bindings) :
    bindings.map (·.channel) = channels.map (·.1) := by
  induction bound with
  | nil => rfl
  | cons first _ induction => rw [List.map_cons, List.map_cons, first.named, induction]

/-! ## Charts -/

theorem isAvailable_chooseTemplate (templates : List Template) (source : σ) :
    Template.IsAvailable templates (chooseTemplate templates source).1 := by
  by_cases empty : templates = []
  · subst empty
    have someMark : Template.marks ≠ [] := by decide
    rcases Draw.exists_choose someMark source with ⟨mark, known, chosen⟩
    have fallback : (chooseTemplate [] source).1 =
        Template.fallback ((Draw.choose Template.marks source).1.getD "point") := rfl
    rw [fallback, chosen]
    exact .inr ⟨rfl, mark, known, rfl⟩
  · rcases Draw.exists_choose empty source with ⟨template, member, chosen⟩
    have loaded : Draw.choose templates source =
        (some template, (Draw.choose templates source).2) := Prod.ext chosen rfl
    unfold chooseTemplate
    rw [loaded]
    exact .inl member

theorem isFirstChart_chart {fields : List DataField} {template : Template}
    {bindings : List Binding}
    (bound : List.Forall₂ (Binds fields) template.encoding.entries bindings) :
    IsFirstChart fields template bindings (chart template.mark bindings) := by
  have channels := map_channel_of_forall₂ bound
  have ascending : (bindings.map (·.channel)).Pairwise (· < ·) := by
    rw [channels]
    exact List.pairwise_map.mpr template.encoding.ascending
  refine {
    bound
    ascending := List.pairwise_map.mp ascending
    formula := rfl
    chart := ⟨_, rfl, ?_⟩
    unscored := rfl }
  -- The channels ascend already, so making an object of them changes nothing.
  rw [Members.toList_ofList, Entries.ofList_of_ascending]
  · rfl
  · exact List.pairwise_map.mpr (List.pairwise_map.mp ascending)

theorem isFirstChart_drawChart (templates : List Template) {fields : List DataField}
    (nonempty : fields ≠ []) (source : σ) :
    ∃ template bindings, Template.IsAvailable templates template ∧
      IsFirstChart fields template bindings (drawChart templates fields source).1 :=
  ⟨_, _, isAvailable_chooseTemplate templates source,
    isFirstChart_chart (forall₂_bind nonempty _ _)⟩

/-! ## Many charts -/

theorem length_drawCharts (templates : List Template) (fields : List DataField) (count : Nat)
    (source : σ) : (drawCharts templates fields count source).1.length = count := by
  induction count generalizing source with
  | zero => rfl
  | succ count induction => exact congrArg Nat.succ (induction _)

theorem exists_drawChart_of_mem {templates : List Template} {fields : List DataField}
    {count : Nat} {source : σ} {suggested : Derivation}
    (member : suggested ∈ (drawCharts templates fields count source).1) :
    ∃ later : σ, suggested = (drawChart templates fields later).1 := by
  induction count generalizing source with
  | zero => cases member
  | succ count induction =>
    rcases List.mem_cons.mp member with first | member
    · exact ⟨source, first⟩
    · exact induction member

theorem initial_of_no_fields (templates : List Template) {context : ChartContext}
    (noFields : context.fields.values = []) (amount : Nat) (source : σ) :
    (initial templates context amount source).1 = [] := by
  rw [initial, noFields]
  rfl

theorem initial_of_fields (templates : List Template) {context : ChartContext}
    (someFields : context.fields.values ≠ []) (amount : Nat) :
    (initial templates context amount : Draw σ (List Derivation)) =
      drawCharts templates context.fields.values (min amount limit) := by
  unfold initial
  split
  · exact absurd ‹_› someFields
  · rfl

theorem length_initial (templates : List Template) {context : ChartContext}
    (someFields : context.fields.values ≠ []) (amount : Nat) (source : σ) :
    (initial templates context amount source).1.length = min amount limit := by
  rw [initial_of_fields templates someFields]
  exact length_drawCharts _ _ _ source

theorem isFirstChart_of_mem_initial {templates : List Template} {context : ChartContext}
    {amount : Nat} {source : σ} {suggested : Derivation}
    (member : suggested ∈ (initial templates context amount source).1) :
    ∃ template bindings, Template.IsAvailable templates template ∧
      IsFirstChart context.fields.values template bindings suggested := by
  by_cases noFields : context.fields.values = []
  · rw [initial_of_no_fields templates noFields] at member
    cases member
  · rw [initial_of_fields templates noFields] at member
    rcases exists_drawChart_of_mem member with ⟨later, rfl⟩
    exact isFirstChart_drawChart templates noFields later

end Suggest

end ChartDialogue
