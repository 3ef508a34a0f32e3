import ChartDialogue.Collection.StringMap
import ChartDialogue.Files.Access
import ChartDialogue.Json.Decode

/-! # Settings

Where the files are, how sessions are handled, whether accepted examples are learned, and whether
commands are logged.
-/

namespace ChartDialogue

structure ResourceSettings where
  schemaFile : Option String := none
  /-- An object keyed by color names. -/
  colorFile : Option String := none
  templateFile : Option String := none
  /-- The query log whose accepted commands are kept as examples. -/
  exampleFile : Option String := none
  /-- Segments that no listed path may contain. -/
  excludedPaths : StringSet := StringSet.ofList
    ["vconcat", "hconcat", "layer", "spec", "repeat", "condition", "selection", "data", "facet"]
  strippedKeys : StringSet := StringSet.empty
  verbose : Nat := 0
deriving DecidableEq

structure SessionSettings where
  dumpDirectory : Option String := none
  onlyInteractive : Bool := false
  allowExpressions : Bool := false
deriving DecidableEq

structure LearningSettings where
  learnExamples : Bool := true
deriving DecidableEq

structure LogSettings where
  queryLog : Option String := none
deriving DecidableEq

structure Settings where
  resources : ResourceSettings := {}
  session : SessionSettings := {}
  learning : LearningSettings := {}
  log : LogSettings := {}
deriving DecidableEq

def Settings.dumpDirectory? (settings : Settings) (current : String) : Option String :=
  settings.session.dumpDirectory.map (FileName.join current)

/-! ## Encoding -/

namespace Settings

def encodePath? : Option String → Json
  | none => .null
  | some path => .string path

def encode (settings : Settings) : Json :=
  Json.ofMembers [
    ("resources", .ofMembers [
      ("vega_schema", encodePath? settings.resources.schemaFile),
      ("color_file", encodePath? settings.resources.colorFile),
      ("initial_templates", encodePath? settings.resources.templateFile),
      ("query_path", encodePath? settings.resources.exampleFile),
      ("excluded_paths", .ofStrings settings.resources.excludedPaths.toList),
      ("excluded_context_paths", .ofStrings settings.resources.strippedKeys.toList),
      ("verbose", .ofNat settings.resources.verbose)]),
    ("session", .ofMembers [
      ("int_output_path", encodePath? settings.session.dumpDirectory),
      ("only_interactive", .bool settings.session.onlyInteractive),
      ("allow_regular_commands", .bool settings.session.allowExpressions)]),
    ("learning", .ofMembers [
      ("online_learn_examples", .bool settings.learning.learnExamples)]),
    ("log", .ofMembers [("query_log", encodePath? settings.log.queryLog)])]

end Settings

/-! ## Decoding -/

def decodePath? : Json → Decoded (Option String) := Decode.optional Decode.path

namespace ResourceSettings

def shape : Decode.RecordShape := ⟨"ResourceConfig", 7⟩

/-- Settings that are not given keep their default. -/
def ofFields (schemaFile colorFile templateFile exampleFile : Option (Option String))
    (excludedPaths strippedKeys : Option StringSet) (verbose : Option Nat) : ResourceSettings :=
  let unset : ResourceSettings := {}
  { schemaFile := schemaFile.getD none
    colorFile := colorFile.getD none
    templateFile := templateFile.getD none
    exampleFile := exampleFile.getD none
    excludedPaths := excludedPaths.getD unset.excludedPaths
    strippedKeys := strippedKeys.getD unset.strippedKeys
    verbose := verbose.getD unset.verbose }

def decodeMembers (members : Members none) : Decoded ResourceSettings := do
  let colorFile ← Decode.field? members "color_file" decodePath?
  let strippedKeys ← Decode.field? members "excluded_context_paths" Decode.stringSet
  let excludedPaths ← Decode.field? members "excluded_paths" Decode.stringSet
  let templateFile ← Decode.field? members "initial_templates" decodePath?
  let exampleFile ← Decode.field? members "query_path" decodePath?
  let verbose ← Decode.field? members "verbose" Decode.byte
  let schemaFile ← Decode.field? members "vega_schema" decodePath?
  return ofFields schemaFile colorFile templateFile exampleFile excludedPaths strippedKeys verbose

def decodeElements (elements : List Json) : Decoded ResourceSettings := do
  let schemaFile ← Decode.element? elements 0 decodePath?
  let colorFile ← Decode.element? elements 1 decodePath?
  let templateFile ← Decode.element? elements 2 decodePath?
  let exampleFile ← Decode.element? elements 3 decodePath?
  let excludedPaths ← Decode.element? elements 4 Decode.stringSet
  let strippedKeys ← Decode.element? elements 5 Decode.stringSet
  let verbose ← Decode.element? elements 6 Decode.byte
  return ofFields schemaFile colorFile templateFile exampleFile excludedPaths strippedKeys verbose

def decode : Json → Decoded ResourceSettings :=
  Decode.record shape decodeMembers decodeElements

end ResourceSettings

namespace SessionSettings

def shape : Decode.RecordShape := ⟨"SessionConfig", 3⟩

def ofFields (dumpDirectory : Option (Option String))
    (onlyInteractive allowExpressions : Option Bool) : SessionSettings where
  dumpDirectory := dumpDirectory.getD none
  onlyInteractive := onlyInteractive.getD false
  allowExpressions := allowExpressions.getD false

def decodeMembers (members : Members none) : Decoded SessionSettings := do
  let allowExpressions ← Decode.field? members "allow_regular_commands" Decode.boolean
  let dumpDirectory ← Decode.field? members "int_output_path" decodePath?
  let onlyInteractive ← Decode.field? members "only_interactive" Decode.boolean
  return ofFields dumpDirectory onlyInteractive allowExpressions

def decodeElements (elements : List Json) : Decoded SessionSettings := do
  let dumpDirectory ← Decode.element? elements 0 decodePath?
  let onlyInteractive ← Decode.element? elements 1 Decode.boolean
  let allowExpressions ← Decode.element? elements 2 Decode.boolean
  return ofFields dumpDirectory onlyInteractive allowExpressions

def decode : Json → Decoded SessionSettings := Decode.record shape decodeMembers decodeElements

end SessionSettings

namespace LearningSettings

def shape : Decode.RecordShape := ⟨"LearningConfig", 1⟩

def ofFields (learnExamples : Option Bool) : LearningSettings := ⟨learnExamples.getD true⟩

def decode : Json → Decoded LearningSettings :=
  Decode.record shape
    (fun members =>
      ofFields <$> Decode.field? members "online_learn_examples" Decode.boolean)
    (fun elements => ofFields <$> Decode.element? elements 0 Decode.boolean)

end LearningSettings

namespace LogSettings

def shape : Decode.RecordShape := ⟨"LogConfig", 1⟩

def ofFields (queryLog : Option (Option String)) : LogSettings := ⟨queryLog.getD none⟩

def decode : Json → Decoded LogSettings :=
  Decode.record shape
    (fun members => ofFields <$> Decode.field? members "query_log" decodePath?)
    (fun elements => ofFields <$> Decode.element? elements 0 decodePath?)

end LogSettings

namespace Settings

def shape : Decode.RecordShape := ⟨"VegaConfig", 4⟩

def ofFields (resources : Option ResourceSettings) (session : Option SessionSettings)
    (learning : Option LearningSettings) (log : Option LogSettings) : Settings where
  resources := resources.getD {}
  session := session.getD {}
  learning := learning.getD {}
  log := log.getD {}

def decodeMembers (members : Members none) : Decoded Settings := do
  let learning ← Decode.field? members "learning" LearningSettings.decode
  let log ← Decode.field? members "log" LogSettings.decode
  let resources ← Decode.field? members "resources" ResourceSettings.decode
  let session ← Decode.field? members "session" SessionSettings.decode
  return ofFields resources session learning log

def decodeElements (elements : List Json) : Decoded Settings := do
  let resources ← Decode.element? elements 0 ResourceSettings.decode
  let session ← Decode.element? elements 1 SessionSettings.decode
  let learning ← Decode.element? elements 2 LearningSettings.decode
  let log ← Decode.element? elements 3 LogSettings.decode
  return ofFields resources session learning log

def decode : Json → Decoded Settings := Decode.record shape decodeMembers decodeElements

end Settings

end ChartDialogue
