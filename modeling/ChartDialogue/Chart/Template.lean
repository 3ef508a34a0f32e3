import ChartDialogue.Collection.StringMap
import ChartDialogue.Json.Decode
import ChartDialogue.Json.Printer

/-! # Chart templates

A mark and the measurement wanted on each channel, from which a first chart is made.
-/

namespace ChartDialogue

structure Template where
  mark : String
  /-- What each channel should show: the name of a measurement, or any other word. -/
  encoding : StringMap String
deriving DecidableEq

namespace Template

def marks : List String :=
  ["area", "bar", "circle", "line", "point", "rect", "rule", "square", "text", "tick"]

def fallback (mark : String) : Template :=
  ⟨mark, StringMap.ofList [("x", "any"), ("y", "any")]⟩

/-! ## Encoding -/

def encode (template : Template) : Json :=
  Json.ofMembers [
    ("mark", .string template.mark),
    ("encoding", .ofMembers (template.encoding.entries.map fun entry =>
      (entry.1, .string entry.2)))]

def shape : Decode.RecordShape := ⟨"InitialTemplate", 2⟩

def decodeMembers (members : Members none) : Decoded Template := do
  let encoding ← Decode.field? members "encoding" (Decode.map Decode.string)
  let mark ← Decode.field? members "mark" Decode.string
  let mark ← Decode.required "mark" mark
  let encoding ← Decode.required "encoding" encoding
  return ⟨mark, encoding⟩

def decodeElements (elements : List Json) : Decoded Template := do
  let mark ← Decode.element shape elements 0 Decode.string
  let encoding ← Decode.element shape elements 1 (Decode.map Decode.string)
  return ⟨mark, encoding⟩

def decode : Json → Decoded Template := Decode.record shape decodeMembers decodeElements

end Template

end ChartDialogue
