import ChartDialogue.Proofs.Json.PathWriting
import ChartDialogue.Proofs.Random.Draws
import ChartDialogue.Proofs.Suggest.Changes

/-! # Edits that are skipped

An attempt draws a path and a value for it. No rule proposes a zero that could differ by its sign
only, so the attempt finds nothing exactly when the chart holds this very value at the path.
-/

namespace ChartDialogue

/-! ## Values that are told apart -/

def Json.Distinctive (value : Json) : Prop := ∀ other, value.same other = true → value = other

theorem Json.distinctive_string (text : String) : (Json.string text).Distinctive := by
  intro other same
  cases other <;> simp_all [Json.same]

theorem Json.distinctive_bool (value : Bool) : (Json.bool value).Distinctive := by
  intro other same
  cases other <;> simp_all [Json.same]

theorem Json.distinctive_integer (word : WordInteger) :
    (Json.number (.integer word)).Distinctive := by
  intro other same
  cases other with
  | number number => cases number <;> simp_all [Json.same, Number.same]
  | _ => simp [Json.same] at same

theorem Json.distinctive_double {number : Double} (nonzero : number.magnitude ≠ 0) :
    (Json.number (.double number)).Distinctive := by
  intro other same
  cases other with
  | number right =>
    cases right with
    | integer word => simp [Json.same, Number.same] at same
    | double other =>
      simp only [Json.same, Number.same, Double.sameNumber, Double.isZero, Bool.and_eq_true,
        Bool.or_eq_true, beq_iff_eq, nonzero, or_false] at same
      rw [Double.ext_fields same.2 same.1]
  | _ => simp [Json.same] at same

namespace Rule

variable {σ : Type} [WordSource σ]

theorem distinctive_of_mem_tagged {tag : Tag} {texts : List String} {value : TypedValue}
    (member : value ∈ tagged tag texts) : value.literal.Distinctive := by
  rcases List.mem_map.mp member with ⟨text, _, rfl⟩
  exact Json.distinctive_string text

theorem magnitude_ofTenths_ne_zero :
    ∀ tenths < 9, (Double.ofTenths (tenths + 1)).magnitude ≠ 0 := by
  decide +kernel

/-- A rule proposes texts, truth values, whole numbers and tenths, but no tenths of zero. -/
theorem distinctive_of_mem_propose {slot : Slot} {rule : Rule} {source : σ} {value : TypedValue}
    (proposed : value ∈ (rule.propose slot source).1) : value.literal.Distinctive := by
  cases rule with
  | color | font | enumeration => exact distinctive_of_mem_tagged proposed
  | field => cases proposed
  | boolean =>
    rcases List.mem_cons.mp proposed with rfl | other
    · exact Json.distinctive_bool true
    · rw [List.mem_singleton.mp other]
      exact Json.distinctive_bool false
  | number =>
    rcases List.mem_cons.mp proposed with rfl | other
    · exact Json.distinctive_integer _
    · rw [List.mem_singleton.mp other]
      exact Json.distinctive_double (magnitude_ofTenths_ne_zero _ (Draw.below_lt _ (by decide) _))
  | generic =>
    rw [propose] at proposed
    split at proposed
    · exact distinctive_of_mem_tagged proposed
    · cases proposed

end Rule

namespace Suggest

variable {σ : Type} [WordSource σ]

theorem distinctive_of_mem_pool {engine : Engine} {query : List String} {source : σ}
    {value : TypedValue} (proposed : value ∈ (engine.pool query source).1) :
    value.literal.Distinctive := by
  rcases Engine.mem_poolOfSlots proposed with ⟨slot, _, later, own⟩
  cases governs : Engine.governing? engine.rules slot with
  | none =>
    rw [Engine.proposals, governs] at own
    cases own
  | some rule =>
    rw [Engine.proposals_of_governing governs] at own
    exact Rule.distinctive_of_mem_propose own

/-! ## Attempts -/

def drawnEdit? (engine : Engine) : Draw σ (Option (SimplePath × TypedValue)) := fun source =>
  let position := Draw.below .wide engine.paths.size source
  match engine.paths.path? position.1 with
  | none => (none, position.2)
  | some path =>
    let drawn := engine.draw? path.segments position.2
    (drawn.1.map fun value => (path, value), drawn.2)

def effective? (plot : Json) (path : SimplePath) (value : TypedValue) : Option Derivation :=
  if plot.read? path.segments = some value.literal then none
  else some (change plot path value.literal)

theorem same_change_iff {plot : Json} {path : SimplePath} {value : TypedValue}
    (distinctive : value.literal.Distinctive) :
    (change plot path value.literal).value.same plot = true ↔
      plot.read? path.segments = some value.literal := by
  have written : (change plot path value.literal).value = plot.write path.segments value.literal :=
    rfl
  rw [written, Json.same_write_iff]
  constructor
  · rintro ⟨old, read, same⟩
    rw [distinctive old same]
    exact read
  · exact fun read => ⟨value.literal, read, Json.same_self value.literal⟩

theorem attempt_eq (engine : Engine) (plot : Json) (source : σ) :
    attempt engine plot source =
      ((drawnEdit? engine source).1.bind fun edit => effective? plot edit.1 edit.2,
        (drawnEdit? engine source).2) := by
  unfold attempt drawnEdit?
  dsimp only
  cases engine.paths.path? (Draw.below .wide engine.paths.size source).1 with
  | none => rfl
  | some path =>
    dsimp only
    cases drawn : engine.draw? path.segments (Draw.below .wide engine.paths.size source).2 with
    | mk value later =>
      cases value with
      | none => rfl
      | some value =>
        have proposed := draw?_mem_pool (congrArg Prod.fst drawn)
        have skipped : (change plot path value.literal).value.same plot = true ↔
            plot.read? path.segments = some value.literal :=
          same_change_iff (distinctive_of_mem_pool proposed)
        simp only [Option.map_some, Option.bind_some, effective?, skipped]

/-- A written value is read back. Paths that leave the written one keep what they had and may be
written before or after it; a second write hides the first; and nothing changes exactly when the
value is there already. So an attempt to change a chart skips the edit that it has drawn exactly
when the chart holds its value. -/
theorem write_lawful (target first second : Json) (path other : List String) (engine : Engine)
    (source : σ) :
    (target.write path first).read? path = some first ∧
    (¬ path <+: other → ¬ other <+: path →
      (target.write path first).read? other = target.read? other ∧
      (target.write path first).write other second =
        (target.write other second).write path first) ∧
    (target.write path first).write path second = target.write path second ∧
    (target.write path first = target ↔ target.read? path = some first) ∧
    ((target.write path first).same target = true ↔
      ∃ old, target.read? path = some old ∧ first.same old = true) ∧
    attempt engine target source =
      ((drawnEdit? engine source).1.bind fun edit => effective? target edit.1 edit.2,
        (drawnEdit? engine source).2) := by
  refine ⟨Json.read?_write_self target first path, ?_,
    Json.write_write_self target first second path, Json.write_eq_self_iff target first path,
    Json.same_write_iff target first path, attempt_eq engine target source⟩
  intro beyond before
  exact ⟨Json.read?_write_of_diverging beyond before target first,
    Json.write_comm_of_diverging beyond before target first second⟩

theorem write_lawful_of_channels :
    let plot := Json.ofMembers [
      ("mark", .string "bar"),
      ("encoding", .ofMembers [("x", .string "broken")])]
    let path := ["encoding", "x", "field"]
    let other := ["encoding", "y"]
    (¬ path <+: other ∧ ¬ other <+: path) ∧
      (plot.write path (.string "a")).read? other = plot.read? other ∧
      (plot.write path (.string "a")).write other .null =
        (plot.write other .null).write path (.string "a") := by
  intro plot path other
  have beyond : ¬ path <+: other := by decide
  have before : ¬ other <+: path := by decide
  have engine := (Resources.build Engine.choicesGrammar StringSet.empty {}).engine
  have laws := write_lawful plot (.string "a") .null path other engine (⟨0⟩ : MixedCounter)
  exact ⟨⟨beyond, before⟩, laws.2.1 beyond before⟩

end Suggest

end ChartDialogue
