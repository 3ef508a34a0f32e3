import ChartDialogue.Chart.Context
import ChartDialogue.Chart.Derivation
import ChartDialogue.Text.Blank

/-! # Examples

What was said in which context, what was meant, and the candidates for it, the best first.
-/

namespace ChartDialogue

structure Example where
  /-- The session of the speaker. -/
  id : String
  utterance : String
  context : ChartContext
  targetValue : Option Json := none
  targetFormula : Option Json := none
  derivations : List Derivation := []
deriving DecidableEq

namespace Example

def ofUtterance (id utterance : String) (context : ChartContext) : Example where
  id := id
  utterance := Text.trim utterance
  context := context

def top (limit : Option Nat) (derivations : List Derivation) : List Derivation :=
  match limit with
  | none => derivations
  | some limit => derivations.take limit

/-! ## Encoding -/

def outline (example_ : Example) : Outline :=
  .record (
    [("id", .text example_.id),
      ("utterance", .text example_.utterance),
      ("context", example_.context.outline)] ++
    Outline.field? "targetValue" Json.outline example_.targetValue ++
    Outline.field? "targetFormula" Json.outline example_.targetFormula ++
    [("predDerivations", .sequence (example_.derivations.map Derivation.outline))])

def encode (example_ : Example) : Json := example_.outline.toJson

def shape : Decode.RecordShape := ⟨"Example", 6⟩

def decodeMembers (members : Members none) : Decoded Example := do
  let context ← Decode.field? members "context" ChartContext.decode
  let id ← Decode.field? members "id" Decode.string
  let derivations ← Decode.field? members "predDerivations" (Decode.list Derivation.decode)
  let targetFormula ← Decode.field? members "targetFormula" (Decode.optional Decode.value)
  let targetValue ← Decode.field? members "targetValue" (Decode.optional Decode.value)
  let utterance ← Decode.field? members "utterance" Decode.string
  let id ← Decode.required "id" id
  let utterance ← Decode.required "utterance" utterance
  let context ← Decode.required "context" context
  return {
    id, utterance, context
    targetValue := targetValue.getD none
    targetFormula := targetFormula.getD none
    derivations := derivations.getD [] }

def decodeElements (elements : List Json) : Decoded Example := do
  let id ← Decode.element shape elements 0 Decode.string
  let utterance ← Decode.element shape elements 1 Decode.string
  let context ← Decode.element shape elements 2 ChartContext.decode
  let targetValue ← Decode.element? elements 3 (Decode.optional Decode.value)
  let targetFormula ← Decode.element? elements 4 (Decode.optional Decode.value)
  let derivations ← Decode.element? elements 5 (Decode.list Derivation.decode)
  return {
    id, utterance, context
    targetValue := targetValue.getD none
    targetFormula := targetFormula.getD none
    derivations := derivations.getD [] }

def decode : Json → Decoded Example := Decode.record shape decodeMembers decodeElements

end Example

end ChartDialogue
