import ChartDialogue.Json.Reader
import ChartDialogue.Markup.Ini
import ChartDialogue.Markup.Json5.Document
import ChartDialogue.Markup.Ron.Document
import ChartDialogue.Markup.Yaml.Document
import ChartDialogue.Settings.Convert
import ChartDialogue.Toml.Reader
import ChartDialogue.Toml.Writer

/-! # Settings files

Settings are looked for in some files that may be missing, then in a file that was asked for, and
last in the environment. They are written as a file that gives all of them.
-/

namespace ChartDialogue

inductive SettingsFault where
  | missing (name : String)
  | unknownFormat (name : String)
  | noToml (source : String)
  | content (reason source : String)
  | file (fault : FileFault)
  | conversion (fault : ConversionFault)

def SettingsFault.message : SettingsFault → String
  | .missing name => "configuration file \"" ++ name ++ "\" not found"
  | .unknownFormat name =>
    "configuration file \"" ++ name ++ "\" is not of a registered file format"
  | .noToml source => "TOML parse error in " ++ source
  | .content reason source => reason ++ " in " ++ source
  | .file fault => fault.message
  | .conversion fault => fault.message

/-! ## Formats -/

inductive SettingsFormat where
  | toml
  | json
  | yaml
  | ini
  | ron
  | json5
deriving DecidableEq, Repr

namespace SettingsFormat

def all : List SettingsFormat := [toml, json, yaml, ini, ron, json5]

def endings : SettingsFormat → List String
  | toml => ["toml"]
  | json => ["json"]
  | yaml => ["yaml", "yml"]
  | ini => ["ini"]
  | ron => ["ron"]
  | json5 => ["json5"]

def ofName? (name : String) : Option SettingsFormat :=
  (FileName.extension? name).bind fun ending =>
    all.find? fun format => format.endings.contains ending

def allEndings : List (String × SettingsFormat) :=
  all.flatMap fun format => format.endings.map fun ending => (ending, format)

def read (format : SettingsFormat) (source text : String) : Except SettingsFault Given :=
  let outcome {ε : Type} (message : ε → String) (result : Except ε Markup.Value) :
      Except SettingsFault Given :=
    match result with
    | .ok value => .ok (Given.ofMarkup source value)
    | .error fault => .error (.content (message fault) source)
  match format with
  | toml =>
    match Toml.parse? text with
    | some value => .ok (Given.ofToml source value)
    | none => .error (.noToml source)
  | json =>
    match Json.parse text with
    | .ok value => .ok (Given.ofJson source value)
    | .error error => .error (.content error.message source)
  | yaml => outcome Markup.Yaml.Fault.message (Markup.Yaml.parse text)
  | ini => outcome Markup.Ini.Fault.message (Markup.Ini.parse text)
  | ron => outcome Markup.Ron.Fault.message (Markup.Ron.parse text)
  | json5 => outcome Markup.Json5.Fault.message (Markup.Json5.parse text)

/-- The layer that a text gives, which has to be a section as a whole. -/
def layer (format : SettingsFormat) (source text : String) :
    Except SettingsFault (List (String × Given)) := do
  match ← format.read source text with
  | .section _ entries => return entries
  | other =>
    .error (.content
      ({ found := other.rootKind, wanted := "a map", source := some source } :
        ConversionFault).message source)

end SettingsFormat

namespace Settings

/-! ## Loading -/

def usualFiles : List String := ["vega.toml", ".vega.toml", "config/vega.toml"]

def userFile (directory : String) : String := FileName.join directory "vega-interactive/vega.toml"

def stepsBetween : (directory place : List String) → List String
  | first :: directory, second :: place =>
    if first = second then stepsBetween directory place
    else List.replicate (directory.length + 1) ".." ++ second :: place
  | directory, place => List.replicate directory.length ".." ++ place

/-- How a file is called in faults: its way from the current directory. -/
def sourceName (current name : String) : String :=
  String.intercalate "/" (stepsBetween (FileName.steps current) (FileName.steps name))

variable {m : Type → Type} [Monad m] [FileAccess m]

structure SettingsFile where
  name : String
  format : SettingsFormat

def findExtended (name : String) : List (String × SettingsFormat) → m (Option SettingsFile)
  | [] => return none
  | (ending, format) :: rest => do
    match FileName.extend? name ending with
    | none => return none
    | some extended =>
      if ← FileAccess.isFile extended then return some ⟨extended, format⟩
      else findExtended name rest

def findFile (name : String) : ExceptT SettingsFault m (Option SettingsFile) := do
  let whole := FileName.join (← FileAccess.currentDirectory (m := m)) name
  if ← FileAccess.isFile (m := m) whole then
    match SettingsFormat.ofName? whole with
    | some format => return some ⟨whole, format⟩
    | none => throw (.unknownFormat whole)
  else findExtended (m := m) whole SettingsFormat.allEndings

def readLayer (file : SettingsFile) (text : String) :
    ExceptT SettingsFault m (List (String × Given)) := do
  let source := sourceName (← FileAccess.currentDirectory (m := m)) file.name
  ExceptT.mk (pure (file.format.layer source text))

def readFile (name : String) : ExceptT SettingsFault m (SettingsFile × String) := do
  match ← findFile name with
  | none => throw (.missing name)
  | some found =>
    return (found, ← ExceptT.mk (Except.mapError .file <$> FileAccess.readText (m := m) found.name))

/-- The layer of a file that may be missing, or be no text. -/
def readOptional (name : String) : ExceptT SettingsFault m (List (String × Given)) := do
  match ← ExceptT.mk (Except.ok <$> (readFile name : ExceptT SettingsFault m _).run) with
  | .ok (found, text) => readLayer found text
  | .error _ => return []

def readRequired (name : String) : ExceptT SettingsFault m (List (String × Given)) := do
  let (found, text) ← readFile name
  readLayer found text

/-- The layer of the file of the user. It is looked for under its own name first. -/
def readUser (directory : String) : ExceptT SettingsFault m (List (String × Given)) := do
  if ← FileAccess.isPresent (m := m) (userFile directory) then readOptional (userFile directory)
  else return []

/-- The settings of all sources: the usual files, the file of the user, the file that was asked for,
and the environment. -/
def load (userDirectory asked : Option String) (environment : List (String × String)) :
    ExceptT SettingsFault m Settings := do
  let usual ← usualFiles.mapM readOptional
  let user ← userDirectory.toList.mapM readUser
  let named ← asked.toList.mapM readRequired
  let given := Given.ofLayers (usual ++ user ++ named ++ [Environment.layer environment])
  ExceptT.mk (pure ((ofGiven given).mapError .conversion))

/-! ## Saving -/

def textLine (key text : String) : String := key ++ " = " ++ Toml.renderString text ++ "\n"

def optionalLine (key : String) : Option String → String
  | none => ""
  | some text => textLine key text

def flagLine (key : String) (value : Bool) : String :=
  key ++ " = " ++ (if value then "true" else "false") ++ "\n"

/-- A set of texts: up to one on the line of the key, more on lines of their own. -/
def setLine (key : String) (texts : StringSet) : String :=
  let list := match texts.toList.map Toml.renderString with
    | [] => "[]"
    | [text] => "[" ++ text ++ "]"
    | several => "[\n" ++ String.join (several.map fun text => "    " ++ text ++ ",\n") ++ "]"
  key ++ " = " ++ list ++ "\n"

def render (settings : Settings) : String :=
  "[resources]\n" ++
    optionalLine "vega_schema" settings.resources.schemaFile ++
    optionalLine "color_file" settings.resources.colorFile ++
    optionalLine "initial_templates" settings.resources.templateFile ++
    optionalLine "query_path" settings.resources.exampleFile ++
    setLine "excluded_paths" settings.resources.excludedPaths ++
    setLine "excluded_context_paths" settings.resources.strippedKeys ++
    "verbose = " ++ toString settings.resources.verbose ++ "\n" ++
  "\n[session]\n" ++
    optionalLine "int_output_path" settings.session.dumpDirectory ++
    flagLine "only_interactive" settings.session.onlyInteractive ++
    flagLine "allow_regular_commands" settings.session.allowExpressions ++
  "\n[learning]\n" ++
    flagLine "online_learn_examples" settings.learning.learnExamples ++
  "\n[log]\n" ++
    optionalLine "query_log" settings.log.queryLog

def save (settings : Settings) (name : String) : m (Except FileFault Unit) :=
  FileAccess.write name settings.render

end Settings

end ChartDialogue
