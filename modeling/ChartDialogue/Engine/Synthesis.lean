import ChartDialogue.Engine.Check

/-! # Proposing values

The pool of a query joins what the governing rule of each slot proposes. One value is drawn from
it.
-/

namespace ChartDialogue.Engine

variable {σ : Type} [WordSource σ]

/-- The first rule that governs a slot; no rule governs a slot without a type. -/
def governing? (rules : List Rule) (slot : Slot) : Option Rule :=
  if slot.declared = .untyped then none else rules.find? fun rule => rule.applies slot

def proposals (rules : List Rule) (slot : Slot) : Draw σ (List TypedValue) :=
  match governing? rules slot with
  | none => pure []
  | some rule => rule.propose slot

def poolOfSlots (rules : List Rule) : List Slot → Draw σ (List TypedValue)
  | [] => pure []
  | slot :: rest => fun source =>
    let own := proposals rules slot source
    let others := poolOfSlots rules rest own.2
    (own.1 ++ others.1, others.2)

def pool (engine : Engine) (query : List String) : Draw σ (List TypedValue) :=
  poolOfSlots engine.rules (Slot.ofNodes (engine.paths.schemas query))

def draw? (engine : Engine) (query : List String) : Draw σ (Option TypedValue) := fun source =>
  let pool := engine.pool query source
  Draw.choose pool.1 pool.2

/-- A given value if it may stand at the path, else nothing; without a value, one that is drawn. -/
def values (engine : Engine) (query : List String) (value : Option TypedValue) :
    Draw σ (Except CheckFault (List TypedValue)) := fun source =>
  match value with
  | some value =>
    ((fun accepted => if accepted then [value] else []) <$> engine.check query value, source)
  | none =>
    let drawn := engine.draw? query source
    (.ok drawn.1.toList, drawn.2)

end ChartDialogue.Engine
