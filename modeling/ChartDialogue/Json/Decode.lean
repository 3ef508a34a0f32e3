import ChartDialogue.Json.Error

/-! # Decoding values

Scalars, lists, maps and records read from JSON values. A record is read from an object, by name,
or from an array, by position. The fields of an object are read in key order, the first bad one is
the fault; only then are missing fields reported, in the order of the record.
-/

namespace ChartDialogue

abbrev Decoded (α : Type) := Except ShapeFault α

def mismatch {α : Type} (value : Json) (expected : Expected) : Decoded α :=
  .error (.invalidType (Found.ofJson value) expected)

namespace Decode

variable {α : Type}

/-! ## Scalars -/

def string : Json → Decoded String
  | .string text => .ok text
  | other => mismatch other .aString

def boolean : Json → Decoded Bool
  | .bool value => .ok value
  | other => mismatch other .aBoolean

def natural (limit : Nat) (expected : Expected) : Json → Decoded Nat
  | .number (.integer word) =>
    if 0 ≤ word.value ∧ word.value < limit then .ok word.value.toNat
    else .error (.invalidValue (.integer word.value) expected)
  | other => mismatch other expected

def size : Json → Decoded Nat := natural Word.limit .aSize
def count : Json → Decoded Nat := natural Word.limit .aCount
def byte : Json → Decoded Nat := natural 256 .aByte

def double : Json → Decoded Double
  | .number (.integer word) => .ok (Double.ofInt word.value)
  | .number (.double number) => .ok number
  | other => mismatch other .aNumber

def path : Json → Decoded String
  | .string text => .ok text
  | other => mismatch other .aPath

def value (json : Json) : Decoded Json := .ok json

/-- Null means nothing. -/
def optional (decode : Json → Decoded α) : Json → Decoded (Option α)
  | .null => .ok none
  | other => some <$> decode other

/-! ## Lists, sets and maps -/

def list (decode : Json → Decoded α) : Json → Decoded (List α)
  | .array elements => elements.mapM decode
  | other => mismatch other .aSequence

def stringSet (json : Json) : Decoded StringSet := StringSet.ofList <$> list string json

def map (decode : Json → Decoded α) : Json → Decoded (StringMap α)
  | .object members => do
    let entries ← members.toList.mapM fun (key, member) =>
      (fun value => (key, value)) <$> decode member
    return StringMap.ofList entries
  | other => mismatch other .aMap

def members : Json → Decoded (Members none)
  | .object members => .ok members
  | other => mismatch other .aMap

/-! ## Variants -/

def named (known : List (String × α)) (name : String) : Decoded α :=
  match known.lookup name with
  | some value => .ok value
  | none => .error (.unknownVariant name (known.map (·.1)))

/-- One of some names, either a string or an object whose only member has that name and no
content. -/
def variant (known : List (String × α)) : Json → Decoded α
  | .string name => named known name
  | .object (.cons name _ content .nil) => do
    let value ← named known name
    match content with
    | .null => return value
    | other => mismatch other .unit
  | .object _ => .error (.invalidValue .map .singleKeyMap)
  | other => mismatch other .aVariant

/-! ## Records -/

def field? (members : Members none) (name : String) (decode : Json → Decoded α) :
    Decoded (Option α) :=
  match members.find? name with
  | some value => some <$> decode value
  | none => .ok none

def required (name : String) : Option α → Decoded α
  | some value => .ok value
  | none => .error (.missingField name)

structure RecordShape where
  name : String
  fields : Nat

def element (shape : RecordShape) (elements : List Json) (index : Nat)
    (decode : Json → Decoded α) : Decoded α :=
  match elements[index]? with
  | some value => decode value
  | none => .error (.invalidLength index (.recordOf shape.name shape.fields))

def element? (elements : List Json) (index : Nat) (decode : Json → Decoded α) :
    Decoded (Option α) :=
  match elements[index]? with
  | some value => some <$> decode value
  | none => .ok none

/-- A record, by name or by position. -/
def record (shape : RecordShape) (byName : Members none → Decoded α)
    (byPosition : List Json → Decoded α) : Json → Decoded α
  | .object members => byName members
  | .array elements => do
    let result ← byPosition elements
    if shape.fields < elements.length then
      .error (.invalidLength elements.length .fewerElements)
    else return result
  | other => mismatch other (.record shape.name)

end Decode

end ChartDialogue
