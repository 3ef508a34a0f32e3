import ChartDialogue.Chart.Derivation
import ChartDialogue.Engine.Synthesis
import ChartDialogue.Json.Edit
import ChartDialogue.Suggest.Initial

/-! # Suggesting changes

A change writes one drawn value at one listed path of the chart. Changes that leave the chart as it
is are not suggested.
-/

namespace ChartDialogue.Suggest

variable {σ : Type} [WordSource σ]

def attemptsPerChange : Nat := 20

def change (plot : Json) (path : SimplePath) (value : Json) : Derivation :=
  .unscored ("(set " ++ path.dotted ++ " " ++ value.compact ++ ")")
    (plot.write path.segments value)

def attempt (engine : Engine) (plot : Json) : Draw σ (Option Derivation) := fun source =>
  let position := Draw.below .wide engine.paths.size source
  match engine.paths.path? position.1 with
  | none => (none, position.2)
  | some path =>
    match engine.draw? path.segments position.2 with
    | (none, source) => (none, source)
    | (some value, source) =>
      let changed := change plot path value.literal
      (if changed.value.same plot then none else some changed, source)

def attempts (engine : Engine) (plot : Json) :
    (times : Nat) → (wanted : Nat) → Draw σ (List Derivation)
  | 0, _ => pure []
  | _ + 1, 0 => pure []
  | times + 1, wanted + 1 => fun source =>
    match attempt engine plot source with
    | (none, source) => attempts engine plot times (wanted + 1) source
    | (some found, source) =>
      let others := attempts engine plot times wanted source
      (found :: others.1, others.2)

def modification (engine : Engine) (plot : Json) (amount : Nat) : Draw σ (List Derivation) :=
  if engine.paths.isEmpty then pure []
  else
    let wanted := min amount limit
    attempts engine plot (wanted * attemptsPerChange) wanted

def suggestions (engine : Engine) (templates : List Template) (context : ChartContext)
    (amount : Nat) : Draw σ (List Derivation) :=
  if context.isInitial then initial templates context amount
  else modification engine context.plot amount

end ChartDialogue.Suggest
