import ChartDialogue.Collection.StringMap
import ChartDialogue.Grammar.DeclaredType
import ChartDialogue.Grammar.SimplePath
import ChartDialogue.Json.Decode

/-! # Schema nodes

One position of the grammar: what it declares, and how it was reached.
-/

namespace ChartDialogue

structure SchemaNode where
  /-- Declared types in document order; the sentinel alone if there are none. -/
  types : List DeclaredType
  enumeration : Option StringSet
  simplePath : SimplePath
  /-- The text of every hop on the way from the root. -/
  fullPath : List String
  pointer : String
  /-- Whether the schema has a `type` member. -/
  typed : Bool
deriving DecidableEq

namespace SchemaNode

def isEnumeration (node : SchemaNode) : Bool := node.enumeration.isSome

/-- The last property name on the way to the node; the root has the empty one. -/
def lastSegment (node : SchemaNode) : String := node.simplePath.last?.getD ""

/-! ## Encoding -/

def typeNames : List (String × DeclaredType) :=
  DeclaredType.all.map fun declared => (declared.name, declared)

def encodePath (path : SimplePath) : Json := Json.ofStrings path.segments

def encode (node : SchemaNode) : Json :=
  Json.ofMembers [
    ("types", .array (node.types.map fun declared => .string declared.name)),
    ("enums", match node.enumeration with
      | none => .null
      | some literals => Json.ofStrings literals.toList),
    ("simple_path", encodePath node.simplePath),
    ("full_path", Json.ofStrings node.fullPath),
    ("pointer", .string node.pointer),
    ("typed", .bool node.typed)]

def decodePath (value : Json) : Decoded SimplePath :=
  SimplePath.mk <$> Decode.list Decode.string value

def shape : Decode.RecordShape := ⟨"SchemaNode", 6⟩

def decodeMembers (members : Members none) : Decoded SchemaNode := do
  let enumeration ← Decode.field? members "enums" (Decode.optional Decode.stringSet)
  let fullPath ← Decode.field? members "full_path" (Decode.list Decode.string)
  let pointer ← Decode.field? members "pointer" Decode.string
  let simplePath ← Decode.field? members "simple_path" decodePath
  let typed ← Decode.field? members "typed" Decode.boolean
  let types ← Decode.field? members "types" (Decode.list (Decode.variant typeNames))
  let types ← Decode.required "types" types
  let simplePath ← Decode.required "simple_path" simplePath
  let fullPath ← Decode.required "full_path" fullPath
  let pointer ← Decode.required "pointer" pointer
  let typed ← Decode.required "typed" typed
  return { types, enumeration := enumeration.getD none, simplePath, fullPath, pointer, typed }

def decodeElements (elements : List Json) : Decoded SchemaNode := do
  let types ← Decode.element shape elements 0 (Decode.list (Decode.variant typeNames))
  let enumeration ← Decode.element shape elements 1 (Decode.optional Decode.stringSet)
  let simplePath ← Decode.element shape elements 2 decodePath
  let fullPath ← Decode.element shape elements 3 (Decode.list Decode.string)
  let pointer ← Decode.element shape elements 4 Decode.string
  let typed ← Decode.element shape elements 5 Decode.boolean
  return { types, enumeration, simplePath, fullPath, pointer, typed }

def decode : Json → Decoded SchemaNode := Decode.record shape decodeMembers decodeElements

end SchemaNode

end ChartDialogue
