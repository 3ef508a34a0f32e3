import ChartDialogue.Json.Decode
import ChartDialogue.Json.Printer
import ChartDialogue.Value.Tag

/-! # Typed values

A literal with its tag. Whether a value fits a position is decided by the tag, not by the literal.
-/

namespace ChartDialogue

structure TypedValue where
  literal : Json
  tag : Tag
deriving DecidableEq

namespace TypedValue

def tagOf : Json → Tag
  | .string _ => .string
  | .number (.integer _) => .integer
  | .number (.double _) => .number
  | .bool _ => .boolean
  | .object _ => .object
  | .array _ => .array
  | .null => .null

def infer (literal : Json) : TypedValue := ⟨literal, tagOf literal⟩

/-- Strings stand for themselves, other literals for their compact text. -/
def text (value : TypedValue) : String :=
  match value.literal with
  | .string text => text
  | other => other.compact

def display (value : TypedValue) : String := value.literal.compact ++ ":" ++ value.tag.name

def same (left right : TypedValue) : Bool :=
  left.literal.same right.literal && left.tag == right.tag

/-! ## Encoding -/

def encode (value : TypedValue) : Json :=
  Json.ofMembers [("value", value.literal), ("schemaType", .string value.tag.name)]

def shape : Decode.RecordShape := ⟨"TypedValue", 2⟩

def decodeTag : Json → Decoded Tag := Decode.variant Tag.names

def decodeMembers (members : Members none) : Decoded TypedValue := do
  let tag ← Decode.field? members "schemaType" decodeTag
  let literal ← Decode.field? members "value" Decode.value
  let literal ← Decode.required "value" literal
  let tag ← Decode.required "schemaType" tag
  return ⟨literal, tag⟩

def decodeElements (elements : List Json) : Decoded TypedValue := do
  let literal ← Decode.element shape elements 0 Decode.value
  let tag ← Decode.element shape elements 1 decodeTag
  return ⟨literal, tag⟩

def decode : Json → Decoded TypedValue := Decode.record shape decodeMembers decodeElements

end TypedValue

end ChartDialogue
