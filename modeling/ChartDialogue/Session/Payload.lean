import ChartDialogue.Json.Decode

/-! # Payloads

What the commands of a client carry. A context and a data schema only have to be there; they are
read later, by name.
-/

namespace ChartDialogue

structure QueryPayload where
  utterance : String
  shuffled : Bool
  amount : Option Nat

structure RandomPayload where
  amount : Nat

structure AcceptPayload where
  utterance : String
  targetValue : Json
  targetFormula : Option Json

structure ExamplePayload where
  amount : Option Nat

namespace QueryPayload

def shape : Decode.RecordShape := ⟨"QueryPayload", 5⟩

def ofFields (utterance : String) (shuffled : Option Bool) (amount : Option (Option Nat)) :
    QueryPayload :=
  ⟨utterance, shuffled.getD false, amount.getD none⟩

def decodeMembers (members : Members none) : Decoded QueryPayload := do
  let amount ← Decode.field? members "amount" (Decode.optional Decode.size)
  let context ← Decode.field? members "context" Decode.value
  let shuffled ← Decode.field? members "random" Decode.boolean
  let schema ← Decode.field? members "schema" Decode.value
  let utterance ← Decode.field? members "utterance" Decode.string
  let utterance ← Decode.required "utterance" utterance
  let _ ← Decode.required "context" context
  let _ ← Decode.required "schema" schema
  return ofFields utterance shuffled amount

def decodeElements (elements : List Json) : Decoded QueryPayload := do
  let utterance ← Decode.element shape elements 0 Decode.string
  let _ ← Decode.element shape elements 1 Decode.value
  let _ ← Decode.element shape elements 2 Decode.value
  let shuffled ← Decode.element? elements 3 Decode.boolean
  let amount ← Decode.element? elements 4 (Decode.optional Decode.size)
  return ofFields utterance shuffled amount

def decode : Json → Decoded QueryPayload := Decode.record shape decodeMembers decodeElements

end QueryPayload

namespace RandomPayload

def shape : Decode.RecordShape := ⟨"RandomPayload", 3⟩

def decodeMembers (members : Members none) : Decoded RandomPayload := do
  let amount ← Decode.field? members "amount" Decode.size
  let context ← Decode.field? members "context" Decode.value
  let schema ← Decode.field? members "schema" Decode.value
  let amount ← Decode.required "amount" amount
  let _ ← Decode.required "context" context
  let _ ← Decode.required "schema" schema
  return ⟨amount⟩

def decodeElements (elements : List Json) : Decoded RandomPayload := do
  let amount ← Decode.element shape elements 0 Decode.size
  let _ ← Decode.element shape elements 1 Decode.value
  let _ ← Decode.element shape elements 2 Decode.value
  return ⟨amount⟩

def decode : Json → Decoded RandomPayload := Decode.record shape decodeMembers decodeElements

end RandomPayload

namespace AcceptPayload

def shape : Decode.RecordShape := ⟨"AcceptPayload", 4⟩

def decodeMembers (members : Members none) : Decoded AcceptPayload := do
  let context ← Decode.field? members "context" Decode.value
  let targetFormula ← Decode.field? members "targetFormula" (Decode.optional Decode.value)
  let targetValue ← Decode.field? members "targetValue" Decode.value
  let utterance ← Decode.field? members "utterance" Decode.string
  let utterance ← Decode.required "utterance" utterance
  let _ ← Decode.required "context" context
  let targetValue ← Decode.required "targetValue" targetValue
  return ⟨utterance, targetValue, targetFormula.getD none⟩

def decodeElements (elements : List Json) : Decoded AcceptPayload := do
  let utterance ← Decode.element shape elements 0 Decode.string
  let _ ← Decode.element shape elements 1 Decode.value
  let targetValue ← Decode.element shape elements 2 Decode.value
  let targetFormula ← Decode.element? elements 3 (Decode.optional Decode.value)
  return ⟨utterance, targetValue, targetFormula.getD none⟩

def decode : Json → Decoded AcceptPayload := Decode.record shape decodeMembers decodeElements

end AcceptPayload

namespace ExamplePayload

def shape : Decode.RecordShape := ⟨"ExamplePayload", 1⟩

/-- No payload at all asks for every example. -/
def decode : Json → Decoded ExamplePayload
  | .null => .ok ⟨none⟩
  | payload =>
    Decode.record shape
      (fun members => (⟨·.getD none⟩) <$>
        Decode.field? members "amount" (Decode.optional Decode.size))
      (fun elements => (⟨·.getD none⟩) <$>
        Decode.element? elements 0 (Decode.optional Decode.size))
      payload

end ExamplePayload

end ChartDialogue
