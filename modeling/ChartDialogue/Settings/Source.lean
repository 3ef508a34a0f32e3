import ChartDialogue.Json.Basic
import ChartDialogue.Markup.Value
import ChartDialogue.Settings.Layer
import ChartDialogue.Toml.Value

/-! # What sources give

Settings can be given by files of several formats, or by variables of the environment.
-/

namespace ChartDialogue

namespace Given

/-! ## TOML files -/

mutual
def ofToml (source : String) : Toml.Value → Given
  | .string text => .scalar source (.text text)
  | .integer value => .scalar source (.integer value)
  | .float value => .scalar source (.float value)
  | .boolean value => .scalar source (.boolean value)
  | .moment text => .scalar source (.text text)
  | .array elements => .list (some source) (ofTomlElements source elements)
  | .table entries => .section (some source) (ofTomlEntries source entries)

def ofTomlElements (source : String) : List Toml.Value → List Given
  | [] => []
  | value :: rest => ofToml source value :: ofTomlElements source rest

def ofTomlEntries (source : String) : List (String × Toml.Value) → List (String × Given)
  | [] => []
  | (key, value) :: rest => (key, ofToml source value) :: ofTomlEntries source rest
end

/-! ## JSON files -/

/-- A number; what is too large for a signed word is taken as a double. -/
def ofNumber : Number → GivenScalar
  | .integer word =>
    if Word.fitsSigned word.value then .integer word.value
    else .float (.finite (Double.ofInt word.value))
  | .double value => .float (.finite value)

mutual
def ofJson (source : String) : Json → Given
  | .null => .nothing (some source)
  | .bool value => .scalar source (.boolean value)
  | .number number => .scalar source (ofNumber number)
  | .string text => .scalar source (.text text)
  | .array elements => .list (some source) (ofJsonElements source elements)
  | .object members => .section (some source) (ofJsonMembers source members)

def ofJsonElements (source : String) : List Json → List Given
  | [] => []
  | value :: rest => ofJson source value :: ofJsonElements source rest

def ofJsonMembers (source : String) {floor : Option String} :
    Members floor → List (String × Given)
  | .nil => []
  | .cons key _ value rest => (key, ofJson source value) :: ofJsonMembers source rest
end

/-! ## Other files -/

mutual
def ofMarkup (source : String) : Markup.Value → Given
  | .null => .nothing (some source)
  | .boolean value => .scalar source (.boolean value)
  | .integer value => .scalar source (.integer value)
  | .float value => .scalar source (.float value)
  | .text text => .scalar source (.text text)
  | .list elements => .list (some source) (ofMarkupElements source elements)
  | .table entries => .section (some source) (ofMarkupEntries source entries)

def ofMarkupElements (source : String) : List Markup.Value → List Given
  | [] => []
  | value :: rest => ofMarkup source value :: ofMarkupElements source rest

def ofMarkupEntries (source : String) : List (String × Markup.Value) → List (String × Given)
  | [] => []
  | (key, value) :: rest => (key, ofMarkup source value) :: ofMarkupEntries source rest
end

end Given

/-! ## The environment -/

namespace Environment

def mark : String := "vega__"

def source : String := "the environment"

/-- What a text stands for: a truth value, a number, or itself. -/
def valueOf (text : String) : GivenScalar :=
  match Text.lower text with
  | "true" => .boolean true
  | "false" => .boolean false
  | _ =>
    match Word.ofSigned? 10 text.toList with
    | some value => .integer value
    | none =>
      match FloatValue.ofText? text with
      | some value => .float value
      | none => .text text

def dots : List Char → List Char
  | '_' :: '_' :: rest => '.' :: dots rest
  | character :: rest => character :: dots rest
  | [] => []

def setting? (variable_ : String × String) : Option (String × Given) :=
  let name := (Text.lower variable_.1).toList
  if mark.toList.isPrefixOf name then
    some (String.ofList (dots (name.drop mark.length)), .scalar source (valueOf variable_.2))
  else none

def layer (environment : List (String × String)) : List (String × Given) :=
  environment.filterMap setting?

end Environment

end ChartDialogue
