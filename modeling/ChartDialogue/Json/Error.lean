import ChartDialogue.Json.Printer
import ChartDialogue.Text.Quoted

/-! # What can be wrong with JSON

A fault is either in the text, which is then no JSON, or in the shape of a value, which is then not
what the reader asked for. Faults found in a text carry the place where they were noticed.
-/

namespace ChartDialogue

/-- A place in a text: lines count from one, columns count the bytes since the last line feed. -/
structure Position where
  line : Nat
  column : Nat
deriving DecidableEq, Repr

inductive TextFault where
  | endOfValue
  | endOfList
  | endOfObject
  | endOfString
  | identExpected
  | valueExpected
  | nestedTooDeep
  | invalidNumber
  | numberOutOfRange
  | controlCharacter
  | invalidEscape
  | loneSurrogate
  | endOfHexEscape
  | trailingComma
  | listSeparatorExpected
  | objectSeparatorExpected
  | colonExpected
  | keyNotString
  | trailingCharacters
deriving DecidableEq, Repr

def TextFault.message : TextFault → String
  | .endOfValue => "EOF while parsing a value"
  | .endOfList => "EOF while parsing a list"
  | .endOfObject => "EOF while parsing an object"
  | .endOfString => "EOF while parsing a string"
  | .identExpected => "expected ident"
  | .valueExpected => "expected value"
  | .nestedTooDeep => "recursion limit exceeded"
  | .invalidNumber => "invalid number"
  | .numberOutOfRange => "number out of range"
  | .controlCharacter => "control character (\\u0000-\\u001F) found while parsing a string"
  | .invalidEscape => "invalid escape"
  | .loneSurrogate => "lone leading surrogate in hex escape"
  | .endOfHexEscape => "unexpected end of hex escape"
  | .trailingComma => "trailing comma"
  | .listSeparatorExpected => "expected `,` or `]`"
  | .objectSeparatorExpected => "expected `,` or `\x7d`"
  | .colonExpected => "expected `:`"
  | .keyNotString => "key must be a string"
  | .trailingCharacters => "trailing characters"

inductive Found where
  | null
  | boolean (value : Bool)
  | integer (value : Int)
  | floating (value : Double)
  | string (value : String)
  | sequence
  | map

def Found.ofJson : Json → Found
  | .null => .null
  | .bool value => .boolean value
  | .number (.integer word) => .integer word.value
  | .number (.double number) => .floating number
  | .string text => .string text
  | .array _ => .sequence
  | .object _ => .map

def Found.text : Found → String
  | .null => "null"
  | .boolean value => "boolean `" ++ (if value then "true" else "false") ++ "`"
  | .integer value => "integer `" ++ String.ofList (renderInteger value) ++ "`"
  | .floating value => "floating point `" ++ String.ofList value.render ++ "`"
  | .string value => "string " ++ Text.quoted value
  | .sequence => "sequence"
  | .map => "map"

inductive Expected where
  | aString
  | aBoolean
  | aSize
  | aCount
  | aByte
  | aNumber
  | aSequence
  | aMap
  | aPath
  | unit
  | aVariant
  | singleKeyMap
  | record (name : String)
  | recordOf (name : String) (fields : Nat)
  | fewerElements

def Expected.text : Expected → String
  | .aString => "a string"
  | .aBoolean => "a boolean"
  | .aSize => "usize"
  | .aCount => "u64"
  | .aByte => "u8"
  | .aNumber => "f64"
  | .aSequence => "a sequence"
  | .aMap => "a map"
  | .aPath => "path string"
  | .unit => "unit"
  | .aVariant => "string or map"
  | .singleKeyMap => "map with a single key"
  | .record name => "struct " ++ name
  | .recordOf name fields =>
    "struct " ++ name ++ " with " ++ toString fields ++
      (if fields = 1 then " element" else " elements")
  | .fewerElements => "fewer elements in array"

inductive ShapeFault where
  | invalidType (found : Found) (expected : Expected)
  | invalidValue (found : Found) (expected : Expected)
  | invalidLength (length : Nat) (expected : Expected)
  | unknownVariant (name : String) (known : List String)
  | missingField (name : String)
  | duplicateField (name : String)

/-- Names to choose from: two are joined by "or", more are listed. -/
def oneOf (names : List String) : String :=
  match names.map fun name => "`" ++ name ++ "`" with
  | [only] => only
  | [first, second] => first ++ " or " ++ second
  | several => "one of " ++ String.intercalate ", " several

def ShapeFault.message : ShapeFault → String
  | .invalidType found expected => "invalid type: " ++ found.text ++ ", expected " ++ expected.text
  | .invalidValue found expected =>
    "invalid value: " ++ found.text ++ ", expected " ++ expected.text
  | .invalidLength length expected =>
    "invalid length " ++ toString length ++ ", expected " ++ expected.text
  | .unknownVariant name known => "unknown variant `" ++ name ++ "`, expected " ++ oneOf known
  | .missingField name => "missing field `" ++ name ++ "`"
  | .duplicateField name => "duplicate field `" ++ name ++ "`"

inductive JsonFault where
  | text (fault : TextFault)
  | shape (fault : ShapeFault)

def JsonFault.message : JsonFault → String
  | .text fault => fault.message
  | .shape fault => fault.message

structure JsonError where
  fault : JsonFault
  position : Option Position

def JsonError.message (error : JsonError) : String :=
  match error.position with
  | none => error.fault.message
  | some place =>
    error.fault.message ++ " at line " ++ toString place.line ++ " column " ++
      toString place.column

def JsonError.ofShape (fault : ShapeFault) : JsonError := ⟨.shape fault, none⟩

end ChartDialogue
