import ChartDialogue.Json.Printer
import ChartDialogue.Settings.Basic
import ChartDialogue.Settings.Source
import ChartDialogue.Text.Quoted

/-! # Settings from what is given

Given values are converted where that makes sense: numbers and words can stand for truth values,
truth values and words for numbers, and all three for texts. Unknown keys are passed over.
-/

namespace ChartDialogue

structure ConversionFault where
  found : String
  wanted : String
  place : Option String := none
  source : Option String := none
deriving DecidableEq

def ConversionFault.message (fault : ConversionFault) : String :=
  "invalid type: " ++ fault.found ++ ", expected " ++ fault.wanted ++
    (match fault.place with
      | some place => " for key `" ++ place ++ "`"
      | none => "") ++
    (match fault.source with
      | some source => " in " ++ source
      | none => "")

namespace Given

/-! ## Scalars -/

def kind : Given → String
  | .nothing _ => "unit value"
  | .scalar _ (.boolean value) => "boolean `" ++ toString value ++ "`"
  | .scalar _ (.integer value) => "integer `" ++ String.ofList (renderInteger value) ++ "`"
  | .scalar _ (.float value) => "floating point `" ++ value.textWithPoint ++ "`"
  | .scalar _ (.text text) => "string " ++ Text.quoted text
  | .list .. => "sequence"
  | .section .. => "map"

def rootKind : Given → String
  | .scalar _ (.integer value) => "64-bit integer `" ++ String.ofList (renderInteger value) ++ "`"
  | .scalar _ (.float value) => "floating point `" ++ value.text ++ "`"
  | other => other.kind

def refuse {α : Type} (given : Given) (place found wanted : String) : Except ConversionFault α :=
  .error { found, wanted, place := some place, source := given.source? }

def truth? : String → Option Bool
  | "true" | "on" | "yes" => some true
  | "false" | "off" | "no" => some false
  | _ => none

def boolean (place : String) (given : Given) : Except ConversionFault Bool :=
  match given with
  | .scalar _ (.boolean value) => .ok value
  | .scalar _ (.integer value) => .ok (value ≠ 0)
  | .scalar _ (.float value) => .ok ¬ value.isZero
  | .scalar _ (.text text) =>
    let word := Text.lower text
    if word = "1" then .ok true
    else if word = "0" then .ok false
    else match truth? word with
      | some value => .ok value
      | none => given.refuse place ("string " ++ Text.quoted word) "a boolean"
  | other => other.refuse place other.kind "a boolean"

def natural (place : String) (given : Given) : Except ConversionFault Nat :=
  match given with
  | .scalar _ (.boolean value) => .ok value.toNat
  | .scalar _ (.integer value) =>
    if 0 ≤ value then .ok value.toNat
    else given.refuse place ("64-bit integer `" ++ String.ofList (renderInteger value) ++ "`")
      "an unsigned 64 bit or less integer"
  | .scalar _ (.float value) => .ok (value.toNatBelow Word.limit)
  | .scalar _ (.text text) =>
    match truth? (Text.lower text) with
    | some value => .ok value.toNat
    | none =>
      match Word.ofText? text with
      | some value => .ok value
      | none => given.refuse place ("string " ++ Text.quoted text) "an integer"
  | other => other.refuse place other.kind "an integer"

def byte (place : String) (given : Given) : Except ConversionFault Nat := do
  let value ← given.natural place
  if value < 256 then return value
  else .error {
    found := "64-bit unsigned integer `" ++ toString value ++ "`"
    wanted := "an unsigned 8 bit integer"
    place := some place }

def text (place : String) (given : Given) : Except ConversionFault String :=
  match given with
  | .scalar _ (.boolean value) => .ok (toString value)
  | .scalar _ (.integer value) => .ok (String.ofList (renderInteger value))
  | .scalar _ (.float value) => .ok value.text
  | .scalar _ (.text text) => .ok text
  | other => other.refuse place other.kind "a string"

def path? (place : String) (given : Given) : Except ConversionFault (Option String) :=
  match given with
  | .nothing _ => .ok none
  | other => some <$> other.text place

/-! ## Lists and sections -/

def shapeFault {α : Type} (given : Given) (wanted : String) : Except ConversionFault α :=
  .error { found := given.kind, wanted }

def texts (place : String) : (position : Nat) → List Given → Except ConversionFault (List String)
  | _, [] => .ok []
  | position, element :: rest => do
    let first ← element.text (place ++ "[" ++ toString position ++ "]")
    return first :: (← texts place (position + 1) rest)

def textSet (place : String) (given : Given) : Except ConversionFault StringSet :=
  match given with
  | .list _ elements => StringSet.ofList <$> texts place 0 elements
  | other => other.shapeFault "a sequence"

structure Fields where
  field? : (name : String) → (position : Nat) → Option (String × Given)

def within (place name : String) : String := if place.isEmpty then name else place ++ "." ++ name

/-- The fields of a section at a place. A list gives them in order. -/
def fields (place record : String) (given : Given) : Except ConversionFault Fields :=
  match given with
  | .section _ entries => .ok ⟨fun name _ =>
      (entries.lookup name).map fun value => (within place name, value)⟩
  | .list _ elements => .ok ⟨fun _ position =>
      elements[position]?.map fun value => (place ++ "[" ++ toString position ++ "]", value)⟩
  | other => other.shapeFault ("struct " ++ record)

def Fields.read {α : Type} (fields : Fields) (name : String) (position : Nat)
    (convert : String → Given → Except ConversionFault α) : Except ConversionFault (Option α) :=
  match fields.field? name position with
  | none => .ok none
  | some (place, value) => some <$> convert place value

end Given

/-! ## Settings -/

def ResourceSettings.ofGiven (place : String) (given : Given) :
    Except ConversionFault ResourceSettings := do
  let fields ← given.fields place shape.name
  let schemaFile ← fields.read "vega_schema" 0 Given.path?
  let colorFile ← fields.read "color_file" 1 Given.path?
  let templateFile ← fields.read "initial_templates" 2 Given.path?
  let exampleFile ← fields.read "query_path" 3 Given.path?
  let excludedPaths ← fields.read "excluded_paths" 4 Given.textSet
  let strippedKeys ← fields.read "excluded_context_paths" 5 Given.textSet
  let verbose ← fields.read "verbose" 6 Given.byte
  return ofFields schemaFile colorFile templateFile exampleFile excludedPaths strippedKeys verbose

def SessionSettings.ofGiven (place : String) (given : Given) :
    Except ConversionFault SessionSettings := do
  let fields ← given.fields place shape.name
  let dumpDirectory ← fields.read "int_output_path" 0 Given.path?
  let onlyInteractive ← fields.read "only_interactive" 1 Given.boolean
  let allowExpressions ← fields.read "allow_regular_commands" 2 Given.boolean
  return ofFields dumpDirectory onlyInteractive allowExpressions

def LearningSettings.ofGiven (place : String) (given : Given) :
    Except ConversionFault LearningSettings := do
  let fields ← given.fields place shape.name
  ofFields <$> fields.read "online_learn_examples" 0 Given.boolean

def LogSettings.ofGiven (place : String) (given : Given) :
    Except ConversionFault LogSettings := do
  let fields ← given.fields place shape.name
  ofFields <$> fields.read "query_log" 0 Given.path?

def Settings.ofGiven (given : Given) : Except ConversionFault Settings := do
  let fields ← given.fields "" shape.name
  let resources ← fields.read "resources" 0 ResourceSettings.ofGiven
  let session ← fields.read "session" 1 SessionSettings.ofGiven
  let learning ← fields.read "learning" 2 LearningSettings.ofGiven
  let log ← fields.read "log" 3 LogSettings.ofGiven
  return ofFields resources session learning log

end ChartDialogue
