import ChartDialogue.Chart.DataField
import ChartDialogue.Collection.StringMap

/-! # Chart contexts

The chart a client works on and the fields of its data table, as the client sends them with a
command.
-/

namespace ChartDialogue

structure ChartContext where
  plot : Json
  fields : StringMap DataField
deriving DecidableEq

namespace ChartContext

def empty : ChartContext := ⟨Json.emptyObject, StringMap.empty⟩

instance : Inhabited ChartContext := ⟨empty⟩

/-! ## Contexts from requests -/

def strip (stripped : StringSet) : Json → Json
  | .object members => .object (members.filter fun key => ¬ stripped.contains key)
  | other => other

def requestedPlot (stripped : StringSet) (payload : Members none) : Json :=
  match payload.find? "context" with
  | none => Json.emptyObject
  | some plot => strip stripped plot

/-- The fields of a request; null stands for none. -/
def requestedFields (payload : Members none) : Decoded (StringMap DataField) :=
  match payload.find? "schema" with
  | none | some .null => .ok StringMap.empty
  | some fields => Decode.map DataField.decode fields

def ofRequest (stripped : StringSet) (payload : Members none) : Decoded ChartContext := do
  let fields ← requestedFields payload
  return ⟨requestedPlot stripped payload, fields⟩

/-! ## Reading contexts -/

/-- Whether there is no chart yet: it is absent, empty, or marked as initial. -/
def isInitial (context : ChartContext) : Bool :=
  match context.plot with
  | .null => true
  | .object members => members.isEmpty || members.contains "initialContext"
  | _ => false

def fieldsMeasuredAs (context : ChartContext) (measurement : Measurement) : List DataField :=
  context.fields.values.filter fun field => field.measurement = measurement

def same (left right : ChartContext) : Bool :=
  left.plot.same right.plot && left.fields == right.fields

/-! ## Encoding -/

def outline (context : ChartContext) : Outline :=
  .record [
    ("context", context.plot.outline),
    ("schema", .record (context.fields.entries.map fun entry => (entry.1, entry.2.outline)))]

def encode (context : ChartContext) : Json := context.outline.toJson

def shape : Decode.RecordShape := ⟨"VegaContext", 2⟩

def decodeMembers (members : Members none) : Decoded ChartContext := do
  let plot ← Decode.field? members "context" Decode.value
  let fields ← Decode.field? members "schema" (Decode.map DataField.decode)
  let plot ← Decode.required "context" plot
  return ⟨plot, fields.getD StringMap.empty⟩

def decodeElements (elements : List Json) : Decoded ChartContext := do
  let plot ← Decode.element shape elements 0 Decode.value
  let fields ← Decode.element? elements 1 (Decode.map DataField.decode)
  return ⟨plot, fields.getD StringMap.empty⟩

def decode : Json → Decoded ChartContext := Decode.record shape decodeMembers decodeElements

end ChartContext

end ChartDialogue
