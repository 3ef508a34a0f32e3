import ChartDialogue.Grammar.DeclaredType

/-! # Tags

The semantic type of a value: the type of a literal, or what a literal stands for.
-/

namespace ChartDialogue

inductive Tag where
  | string
  | number
  | integer
  | boolean
  | object
  | array
  | null
  | color
  | field
  | enumeration
deriving DecidableEq, Repr, Inhabited

namespace Tag

def all : List Tag :=
  [string, number, integer, boolean, object, array, null, color, field, enumeration]

def name : Tag → String
  | string => "string"
  | number => "number"
  | integer => "integer"
  | boolean => "boolean"
  | object => "object"
  | array => "array"
  | null => "null"
  | color => "color"
  | field => "field"
  | enumeration => "enum"

def names : List (String × Tag) := all.map fun tag => (tag.name, tag)

def ofName? (name : String) : Option Tag := names.lookup name

def ofDeclared? : DeclaredType → Option Tag
  | .string => some string
  | .number => some number
  | .integer => some integer
  | .boolean => some boolean
  | .object => some object
  | .array => some array
  | .null => some null
  | .untyped => none

def denotes (tag : Tag) (declared : DeclaredType) : Bool := ofDeclared? declared == some tag

theorem denotes_iff_name (tag : Tag) (declared : DeclaredType) :
    tag.denotes declared = true ↔ tag.name = declared.name := by
  cases tag <;> cases declared <;> decide

end Tag

end ChartDialogue
