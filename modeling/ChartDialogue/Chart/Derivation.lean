import ChartDialogue.Json.Decode
import ChartDialogue.Json.Printer

/-! # Derivations

A candidate chart, the formula it was derived by, and its score.
-/

namespace ChartDialogue

structure Derivation where
  formula : String
  value : Json
  score : Double
deriving DecidableEq

namespace Derivation

def unscored (formula : String) (value : Json) : Derivation := ⟨formula, value, Double.zero⟩

/-! ## Encoding -/

def outline (derivation : Derivation) : Outline :=
  .record [
    ("formula", .text derivation.formula),
    ("value", derivation.value.outline),
    ("score", .atom (.number (.double derivation.score)))]

def encode (derivation : Derivation) : Json := derivation.outline.toJson

def shape : Decode.RecordShape := ⟨"Derivation", 3⟩

def decodeMembers (members : Members none) : Decoded Derivation := do
  let formula ← Decode.field? members "formula" Decode.string
  let score ← Decode.field? members "score" Decode.double
  let value ← Decode.field? members "value" Decode.value
  let formula ← Decode.required "formula" formula
  let value ← Decode.required "value" value
  let score ← Decode.required "score" score
  return ⟨formula, value, score⟩

def decodeElements (elements : List Json) : Decoded Derivation := do
  let formula ← Decode.element shape elements 0 Decode.string
  let value ← Decode.element shape elements 1 Decode.value
  let score ← Decode.element shape elements 2 Decode.double
  return ⟨formula, value, score⟩

def decode : Json → Decoded Derivation := Decode.record shape decodeMembers decodeElements

end Derivation

end ChartDialogue
