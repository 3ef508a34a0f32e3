import ChartDialogue.Chart.Example

/-! # Responses

What a command hands back: an example, some lines, and statistics.
-/

namespace ChartDialogue

inductive ParseStatus where
  | nothing
  | core
deriving DecidableEq, Repr

namespace ParseStatus

def ofDerivations (derivations : List Derivation) : ParseStatus :=
  if derivations.isEmpty then nothing else core

def name : ParseStatus → String
  | nothing => "nothing"
  | core => "core"

def names : List (String × ParseStatus) :=
  [nothing, core].map fun status => (status.name, status)

def decode : Json → Decoded ParseStatus := Decode.variant names

end ParseStatus

structure QueryStats where
  command : String
  size : Option Nat := none
  status : Option ParseStatus := none
deriving DecidableEq

namespace QueryStats

def outline (stats : QueryStats) : Outline :=
  .record (
    [("command", .text stats.command)] ++
    Outline.field? "size" .nat stats.size ++
    Outline.field? "status" (fun status => .text status.name) stats.status)

def encode (stats : QueryStats) : Json := stats.outline.toJson

def shape : Decode.RecordShape := ⟨"QueryStats", 3⟩

def decodeMembers (members : Members none) : Decoded QueryStats := do
  let command ← Decode.field? members "command" Decode.string
  let size ← Decode.field? members "size" (Decode.optional Decode.size)
  let status ← Decode.field? members "status" (Decode.optional ParseStatus.decode)
  let command ← Decode.required "command" command
  return { command, size := size.getD none, status := status.getD none }

def decodeElements (elements : List Json) : Decoded QueryStats := do
  let command ← Decode.element shape elements 0 Decode.string
  let size ← Decode.element shape elements 1 (Decode.optional Decode.size)
  let status ← Decode.element shape elements 2 (Decode.optional ParseStatus.decode)
  return { command, size, status }

def decode : Json → Decoded QueryStats := Decode.record shape decodeMembers decodeElements

end QueryStats

structure Response where
  answer : Option Example := none
  lines : List String := []
  stats : QueryStats
deriving DecidableEq

namespace Response

def ofCommand (command : String) : Response := { stats := { command } }

def derivations (response : Response) : List Derivation :=
  (response.answer.map Example.derivations).getD []

/-! ## Encoding -/

def outline (response : Response) : Outline :=
  .record (
    Outline.field? "ex" Example.outline response.answer ++
    (if response.lines.isEmpty then []
      else [("lines", .sequence (response.lines.map .text))]) ++
    [("stats", response.stats.outline)])

def encode (response : Response) : Json := response.outline.toJson

def shape : Decode.RecordShape := ⟨"Response", 3⟩

def decodeMembers (members : Members none) : Decoded Response := do
  let answer ← Decode.field? members "ex" (Decode.optional Example.decode)
  let lines ← Decode.field? members "lines" (Decode.list Decode.string)
  let stats ← Decode.field? members "stats" QueryStats.decode
  let stats ← Decode.required "stats" stats
  return { answer := answer.getD none, lines := lines.getD [], stats }

def decodeElements (elements : List Json) : Decoded Response := do
  let answer ← Decode.element shape elements 0 (Decode.optional Example.decode)
  let lines ← Decode.element? elements 1 (Decode.list Decode.string)
  let stats ← Decode.element shape elements 2 QueryStats.decode
  return { answer, lines := lines.getD [], stats }

def decode : Json → Decoded Response := Decode.record shape decodeMembers decodeElements

end Response

end ChartDialogue
