import ChartDialogue.Json.Basic
import ChartDialogue.Number.Shortest

/-! # JSON text

Compact text has no blanks and lists members in key order. Indented text is written from an
outline, which keeps the order of its fields, so that records can show theirs in their own order.
-/

namespace ChartDialogue

/-! ## Scalars -/

def controlEscape (character : Char) : List Char :=
  ['\\', 'u', '0', '0', Nat.digitChar (character.toNat / 16), Nat.digitChar (character.toNat % 16)]

def escapeCharacter (character : Char) : List Char :=
  if character = '"' then ['\\', '"']
  else if character = '\\' then ['\\', '\\']
  else if character = '\x08' then ['\\', 'b']
  else if character = '\x0c' then ['\\', 'f']
  else if character = '\n' then ['\\', 'n']
  else if character = '\r' then ['\\', 'r']
  else if character = '\t' then ['\\', 't']
  else if character.toNat < 0x20 then controlEscape character
  else [character]

/-- The characters of a string literal up to and including the closing quote. -/
def renderStringBody (characters : List Char) : List Char :=
  characters.flatMap escapeCharacter ++ ['"']

def renderString (text : String) : List Char := '"' :: renderStringBody text.toList

def renderInteger (value : Int) : List Char :=
  if value < 0 then '-' :: Nat.toDigits 10 value.natAbs else Nat.toDigits 10 value.natAbs

def Number.render : Number → List Char
  | .integer word => renderInteger word.value
  | .double number => number.render

/-! ## Compact text -/

mutual
def Json.render : Json → List Char
  | .null => ['n', 'u', 'l', 'l']
  | .bool true => ['t', 'r', 'u', 'e']
  | .bool false => ['f', 'a', 'l', 's', 'e']
  | .number number => number.render
  | .string text => renderString text
  | .array [] => ['[', ']']
  | .array (value :: rest) => '[' :: value.render ++ renderElements rest
  | .object members => '\x7b' :: members.render

/-- The elements after the first one, up to and including the closing bracket. -/
def renderElements : List Json → List Char
  | [] => [']']
  | value :: rest => ',' :: value.render ++ renderElements rest

def Members.render {floor : Option String} : Members floor → List Char
  | .nil => ['\x7d']
  | .cons key _ value rest => renderString key ++ ':' :: value.render ++ rest.renderRest

def Members.renderRest {floor : Option String} : Members floor → List Char
  | .nil => ['\x7d']
  | .cons key _ value rest => ',' :: renderString key ++ ':' :: value.render ++ rest.renderRest
end

def Json.compact (value : Json) : String := String.ofList value.render

instance : ToString Json := ⟨Json.compact⟩

/-! ## Indented text -/

/-- A value whose records keep the order of their fields. -/
inductive Outline where
  | atom (value : Json)
  | sequence (parts : List Outline)
  | record (fields : List (String × Outline))

namespace Outline

def text (value : String) : Outline := .atom (.string value)
def nat (value : Nat) : Outline := .atom (.ofNat value)
def bool (value : Bool) : Outline := .atom (.bool value)

def optional {α : Type} (outline : α → Outline) : Option α → Outline
  | none => .atom .null
  | some value => outline value

def field? {α : Type} (name : String) (outline : α → Outline) :
    Option α → List (String × Outline)
  | none => []
  | some value => [(name, outline value)]

end Outline

mutual
/-- The value of an outline, which forgets the order of fields. -/
def Outline.toJson : Outline → Json
  | .atom value => value
  | .sequence parts => .array (partsToJson parts)
  | .record fields => .ofMembers (fieldsToJson fields)

def partsToJson : List Outline → List Json
  | [] => []
  | part :: rest => part.toJson :: partsToJson rest

def fieldsToJson : List (String × Outline) → List (String × Json)
  | [] => []
  | (name, value) :: rest => (name, value.toJson) :: fieldsToJson rest
end

mutual
def Json.outline : Json → Outline
  | .array elements => .sequence (outlineElements elements)
  | .object members => .record members.outline
  | .null => .atom .null
  | .bool value => .atom (.bool value)
  | .number number => .atom (.number number)
  | .string text => .atom (.string text)

def outlineElements : List Json → List Outline
  | [] => []
  | value :: rest => value.outline :: outlineElements rest

def Members.outline {floor : Option String} : Members floor → List (String × Outline)
  | .nil => []
  | .cons key _ value rest => (key, value.outline) :: rest.outline
end

mutual
theorem Json.toJson_outline : (value : Json) → value.outline.toJson = value
  | .null | .bool _ | .number _ | .string _ => rfl
  | .array elements => by
    rw [Json.outline, Outline.toJson, partsToJson_outlineElements elements]
  | .object members => by
    rw [Json.outline, Outline.toJson, fieldsToJson_outline members, Json.ofMembers,
      Members.ofList_toList]

theorem partsToJson_outlineElements : (elements : List Json) →
    partsToJson (outlineElements elements) = elements
  | [] => rfl
  | value :: rest => by
    rw [outlineElements, partsToJson, Json.toJson_outline value,
      partsToJson_outlineElements rest]

theorem fieldsToJson_outline {floor : Option String} : (members : Members floor) →
    fieldsToJson members.outline = members.toList
  | .nil => rfl
  | .cons key above value rest => by
    rw [Members.outline, fieldsToJson, Json.toJson_outline value, fieldsToJson_outline rest,
      Members.toList]
end

def lineBreak (level : Nat) : List Char := '\n' :: List.replicate (2 * level) ' '

mutual
/-- Indented text at a nesting level; empty sequences and records stay on their line. -/
def Outline.indented (level : Nat) : Outline → List Char
  | .atom value => value.render
  | .sequence [] => ['[', ']']
  | .sequence (part :: rest) =>
    '[' :: lineBreak (level + 1) ++ part.indented (level + 1) ++
      indentedParts (level + 1) rest ++ lineBreak level ++ [']']
  | .record [] => ['\x7b', '\x7d']
  | .record ((name, value) :: rest) =>
    '\x7b' :: lineBreak (level + 1) ++ renderString name ++ ':' :: ' ' ::
      value.indented (level + 1) ++
      indentedFields (level + 1) rest ++ lineBreak level ++ ['\x7d']

def indentedParts (level : Nat) : List Outline → List Char
  | [] => []
  | part :: rest =>
    ',' :: lineBreak level ++ part.indented level ++ indentedParts level rest

def indentedFields (level : Nat) : List (String × Outline) → List Char
  | [] => []
  | (name, value) :: rest =>
    ',' :: lineBreak level ++ renderString name ++ ':' :: ' ' :: value.indented level ++
      indentedFields level rest
end

def Outline.lines (outline : Outline) : String := String.ofList (outline.indented 0)

def Json.indented (value : Json) : String := value.outline.lines

example :
    (Json.ofMembers [("b", .array []), ("a", .ofNat 1)]).compact =
      "\x7b\"a\":1,\"b\":[]\x7d" := by
  decide +kernel

end ChartDialogue
