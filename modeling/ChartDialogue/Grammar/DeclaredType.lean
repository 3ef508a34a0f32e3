/-! # Declared types

The types a schema can declare, and the sentinel of a schema that declares none.
-/

namespace ChartDialogue

/-- A type that a schema declares, or `untyped` if it declares none. -/
inductive DeclaredType where
  | string
  | number
  | integer
  | boolean
  | object
  | array
  | null
  | untyped
deriving DecidableEq, Repr, Inhabited

namespace DeclaredType

def all : List DeclaredType :=
  [string, number, integer, boolean, object, array, null, untyped]

theorem mem_all (declared : DeclaredType) : declared ∈ all := by cases declared <;> decide

def name : DeclaredType → String
  | string => "string"
  | number => "number"
  | integer => "integer"
  | boolean => "boolean"
  | object => "object"
  | array => "array"
  | null => "null"
  | untyped => "NOTYPE"

def rank : DeclaredType → Nat
  | string => 0
  | number => 1
  | integer => 2
  | boolean => 3
  | object => 4
  | array => 5
  | null => 6
  | untyped => 7

/-- The type with a given name; no schema can name the sentinel. -/
def ofName? : String → Option DeclaredType
  | "string" => some string
  | "number" => some number
  | "integer" => some integer
  | "boolean" => some boolean
  | "object" => some object
  | "array" => some array
  | "null" => some null
  | _ => none

theorem ofName?_ne_untyped (name : String) : ofName? name ≠ some untyped := by
  unfold ofName?
  split <;> simp

end DeclaredType

end ChartDialogue
