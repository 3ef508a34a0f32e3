import ChartDialogue.Json.Decode
import ChartDialogue.Json.Printer

/-! # Data fields

One column of the client's table, and how a chart measures it.
-/

namespace ChartDialogue

inductive Measurement where
  | nominal
  | quantitative
  | temporal
deriving DecidableEq, Repr

def Measurement.name : Measurement → String
  | .nominal => "nominal"
  | .quantitative => "quantitative"
  | .temporal => "temporal"

structure DataField where
  name : String
  /-- The primitive type: string, integer, number, boolean or date. -/
  type : String
  uniqueCount : Option Nat
  count : Option Nat
  probablyYears : Bool
  source : Bool
deriving DecidableEq

namespace DataField

/-- Numbers are quantitative unless they look like years; dates are temporal. -/
def measurement (field : DataField) : Measurement :=
  if field.type = "integer" ∨ field.type = "number" then
    if field.probablyYears then .temporal else .quantitative
  else if field.type = "date" then .temporal
  else .nominal

/-! ## Encoding -/

def outline (field : DataField) : Outline :=
  .record [
    ("name", .text field.name),
    ("type", .text field.type),
    ("uniqueCount", .optional .nat field.uniqueCount),
    ("count", .optional .nat field.count),
    ("probablyYears", .bool field.probablyYears),
    ("source", .bool field.source)]

def encode (field : DataField) : Json := field.outline.toJson

def shape : Decode.RecordShape := ⟨"FieldInfo", 6⟩

def decodeMembers (members : Members none) : Decoded DataField := do
  let count ← Decode.field? members "count" (Decode.optional Decode.count)
  let name ← Decode.field? members "name" Decode.string
  let probablyYears ← Decode.field? members "probablyYears" Decode.boolean
  let source ← Decode.field? members "source" Decode.boolean
  let type ← Decode.field? members "type" Decode.string
  let uniqueCount ← Decode.field? members "uniqueCount" (Decode.optional Decode.count)
  let name ← Decode.required "name" name
  let type ← Decode.required "type" type
  return {
    name, type
    uniqueCount := uniqueCount.getD none
    count := count.getD none
    probablyYears := probablyYears.getD false
    source := source.getD false }

def decodeElements (elements : List Json) : Decoded DataField := do
  let name ← Decode.element shape elements 0 Decode.string
  let type ← Decode.element shape elements 1 Decode.string
  let uniqueCount ← Decode.element? elements 2 (Decode.optional Decode.count)
  let count ← Decode.element? elements 3 (Decode.optional Decode.count)
  let probablyYears ← Decode.element? elements 4 Decode.boolean
  let source ← Decode.element? elements 5 Decode.boolean
  return {
    name, type
    uniqueCount := uniqueCount.getD none
    count := count.getD none
    probablyYears := probablyYears.getD false
    source := source.getD false }

def decode : Json → Decoded DataField := Decode.record shape decodeMembers decodeElements

end DataField

end ChartDialogue
