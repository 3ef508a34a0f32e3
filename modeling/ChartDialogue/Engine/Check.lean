import ChartDialogue.Engine.Rule
import ChartDialogue.Grammar.Fault
import ChartDialogue.Grammar.PathIndex

/-! # Checking values

A value is checked against the slots that a query leads to. The first slot for which some rule
gives a judgement decides; if there is none, the value is not accepted.
-/

namespace ChartDialogue

structure Engine where
  paths : PathIndex
  rules : List Rule := Rule.defaults

inductive CheckFault where
  | unknownPath (query : List String)
  | malformed (fault : GrammarFault)

def CheckFault.message : CheckFault → String
  | .unknownPath query => "Schema not found for path: " ++ SimplePath.dottedSegments query
  | .malformed fault => "Malformed schema: " ++ fault.message

namespace Engine

def judgement (rules : List Rule) (slot : Slot) (value : TypedValue) : Option Bool :=
  (rules.filter fun rule => rule.applies slot).findSome? fun rule => rule.judge slot value

/-- Whether a value is accepted by the first slot that decides. A slot without a type is a fault
when nothing before it has decided. -/
def checkSlots (rules : List Rule) (value : TypedValue) : List Slot → Except GrammarFault Bool
  | [] => .ok false
  | slot :: rest =>
    if slot.declared = .untyped then .error (.noType slot.node.fullPath)
    else match judgement rules slot value with
      | some accepted => .ok accepted
      | none => checkSlots rules value rest

def check (engine : Engine) (query : List String) (value : TypedValue) :
    Except CheckFault Bool :=
  match engine.paths.schemas query with
  | [] => .error (.unknownPath query)
  | nodes => (checkSlots engine.rules value (Slot.ofNodes nodes)).mapError .malformed

end Engine

end ChartDialogue
