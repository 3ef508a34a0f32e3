import ChartDialogue.Proofs.Toml.DocumentText
import ChartDialogue.Settings.File

/-! # The text of saved settings

Settings are written as a document of four tables. It is read back as these tables, which hold every
setting but the paths that are unset.
-/

namespace ChartDialogue.Settings

open Toml (Line Table)

/-! ## Lines -/

def pathLines (key : String) (path : Option String) : List Line :=
  path.toList.map fun text => ⟨key, Toml.renderString text, .string text⟩

def savedFlag (key : String) (value : Bool) : Line :=
  ⟨key, if value then "true" else "false", .boolean value⟩

def savedSet (key : String) (texts : StringSet) : Line :=
  ⟨key, Toml.listText texts.toList, .array (texts.toList.map .string)⟩

def savedNumber (key : String) (number : Nat) : Line := ⟨key, toString number, .integer number⟩

theorem toList_optionalLine (key : String) (path : Option String) :
    (optionalLine key path).toList = (pathLines key path).flatMap Line.written := by
  cases path with
  | none => rfl
  | some text => simp [optionalLine, textLine, pathLines, Line.written]

theorem toList_flagLine (key : String) (value : Bool) :
    (flagLine key value).toList = (savedFlag key value).written := by
  simp [flagLine, savedFlag, Line.written]

theorem toList_setLine (key : String) (texts : StringSet) :
    (setLine key texts).toList = (savedSet key texts).written := by
  have list : setLine key texts = key ++ " = " ++ Toml.listText texts.toList ++ "\n" := rfl
  simp [list, savedSet, Line.written]

def savedNames : List String :=
  ["resources", "session", "learning", "log", "vega_schema", "color_file", "initial_templates",
    "query_path", "excluded_paths", "excluded_context_paths", "verbose", "int_output_path",
    "only_interactive", "allow_regular_commands", "online_learn_examples", "query_log"]

/-- Each name can stand unquoted, and is looked up as it is written. -/
theorem isPlainKey_savedNames :
    ∀ name ∈ savedNames, Toml.isPlainKey name ∧ Text.lower name = name := by
  decide +kernel

section

variable {key : String} (isSaved : key ∈ savedNames)
include isSaved

theorem isReadable_of_mem_pathLines {path : Option String} {line : Line}
    (member : line ∈ pathLines key path) : line.IsReadable := by
  cases path with
  | none => cases member
  | some text =>
    cases List.mem_singleton.mp member
    refine ⟨(isPlainKey_savedNames key isSaved).1, ?_, fun rest => ?_, rfl⟩
    · obtain ⟨mark, characters, written, isMark⟩ := Toml.renderString_eq_cons text
      exact ⟨mark, characters, written, by rcases isMark with rfl | rfl <;> decide⟩
    · exact Toml.value?_renderString _ text (Toml.endsString_of_ne (by decide) (by decide) _)

theorem isReadable_savedFlag (value : Bool) : (savedFlag key value).IsReadable where
  isKey := (isPlainKey_savedNames key isSaved).1
  start := by
    cases value with
    | false => exact ⟨'f', ['a', 'l', 's', 'e'], by simp [savedFlag], by decide⟩
    | true => exact ⟨'t', ['r', 'u', 'e'], by simp [savedFlag], by decide⟩
  read := Toml.value?_flag _ value
  settled := rfl

theorem isReadable_savedSet (texts : StringSet) : (savedSet key texts).IsReadable where
  isKey := (isPlainKey_savedNames key isSaved).1
  start := by
    obtain ⟨characters, written⟩ := Toml.listText_eq_cons texts.toList
    exact ⟨'[', characters, written, by decide⟩
  read rest := Toml.value?_listText 78 texts.toList ('\n' :: rest)
  settled := by
    rw [savedSet, Toml.Value.settle?, Toml.settleElements?_strings]
    rfl

theorem isReadable_savedNumber {number : Nat} (fits : Word.fitsSigned number) :
    (savedNumber key number).IsReadable where
  isKey := (isPlainKey_savedNames key isSaved).1
  start := by
    obtain ⟨first, others, shown, digit⟩ := Toml.toDigits_eq_cons number
    exact ⟨first, others, Nat.toList_repr.trans shown, Toml.isStop_of_isDigit digit⟩
  read rest := by
    have digits : (savedNumber key number).text.toList = Nat.toDigits 10 number := Nat.toList_repr
    rw [digits]
    exact Toml.value?_toDigits _ fits rest
  settled := rfl

end

/-! ## Tables -/

def resourceTable (settings : ResourceSettings) : Table where
  name := "resources"
  lines := pathLines "vega_schema" settings.schemaFile ++
    (pathLines "color_file" settings.colorFile ++
      (pathLines "initial_templates" settings.templateFile ++
        (pathLines "query_path" settings.exampleFile ++
          [savedSet "excluded_paths" settings.excludedPaths,
            savedSet "excluded_context_paths" settings.strippedKeys,
            savedNumber "verbose" settings.verbose])))

def sessionTable (settings : SessionSettings) : Table where
  name := "session"
  lines := pathLines "int_output_path" settings.dumpDirectory ++
    [savedFlag "only_interactive" settings.onlyInteractive,
      savedFlag "allow_regular_commands" settings.allowExpressions]

def learningTable (settings : LearningSettings) : Table where
  name := "learning"
  lines := [savedFlag "online_learn_examples" settings.learnExamples]

def logTable (settings : LogSettings) : Table where
  name := "log"
  lines := pathLines "query_log" settings.queryLog

def laterTables (settings : Settings) : List Table :=
  [sessionTable settings.session, learningTable settings.learning, logTable settings.log]

def tables (settings : Settings) : List Table :=
  resourceTable settings.resources :: settings.laterTables

theorem toList_render (settings : Settings) :
    settings.render.toList =
      (resourceTable settings.resources).written ++ Toml.writtenBehind settings.laterTables := by
  unfold render
  simp only [String.toList_append, toList_optionalLine, toList_setLine, toList_flagLine,
    Table.written, resourceTable, laterTables, sessionTable, learningTable, logTable,
    Toml.writtenBehind, List.flatMap_append, List.flatMap_cons, List.flatMap_nil]
  simp [Line.written, savedNumber]

/-! ## Reading back -/

theorem sublist_pathLines (key : String) (path : Option String) :
    ((pathLines key path).map Line.key).Sublist [key] := by
  cases path with
  | none => exact List.nil_sublist [key]
  | some text => exact List.Sublist.refl [key]

theorem sublist_resourceTable (settings : ResourceSettings) :
    ((resourceTable settings).lines.map Line.key).Sublist
      ["vega_schema", "color_file", "initial_templates", "query_path", "excluded_paths",
        "excluded_context_paths", "verbose"] := by
  simp only [resourceTable, List.map_append]
  exact (sublist_pathLines "vega_schema" _).append ((sublist_pathLines "color_file" _).append
    ((sublist_pathLines "initial_templates" _).append
      ((sublist_pathLines "query_path" _).append (List.Sublist.refl _))))

theorem sublist_sessionTable (settings : SessionSettings) :
    ((sessionTable settings).lines.map Line.key).Sublist
      ["int_output_path", "only_interactive", "allow_regular_commands"] := by
  simp only [sessionTable, List.map_append]
  exact (sublist_pathLines "int_output_path" _).append (List.Sublist.refl _)

theorem isReadable_resourceTable {settings : ResourceSettings}
    (fits : Word.fitsSigned settings.verbose) : (resourceTable settings).IsReadable where
  isKey := (isPlainKey_savedNames "resources" (by decide)).1
  lines := by
    intro line member
    simp only [resourceTable, List.mem_append, List.mem_cons, List.not_mem_nil, or_false] at member
    rcases member with path | path | path | path | rfl | rfl | rfl
    · exact isReadable_of_mem_pathLines (by decide) path
    · exact isReadable_of_mem_pathLines (by decide) path
    · exact isReadable_of_mem_pathLines (by decide) path
    · exact isReadable_of_mem_pathLines (by decide) path
    · exact isReadable_savedSet (by decide) _
    · exact isReadable_savedSet (by decide) _
    · exact isReadable_savedNumber (by decide) fits
  different := (sublist_resourceTable settings).nodup (by decide)

theorem isReadable_sessionTable (settings : SessionSettings) :
    (sessionTable settings).IsReadable where
  isKey := (isPlainKey_savedNames "session" (by decide)).1
  lines := by
    intro line member
    simp only [sessionTable, List.mem_append, List.mem_cons, List.not_mem_nil, or_false] at member
    rcases member with path | rfl | rfl
    · exact isReadable_of_mem_pathLines (by decide) path
    · exact isReadable_savedFlag (by decide) _
    · exact isReadable_savedFlag (by decide) _
  different := (sublist_sessionTable settings).nodup (by decide)

theorem isReadable_learningTable (settings : LearningSettings) :
    (learningTable settings).IsReadable where
  isKey := (isPlainKey_savedNames "learning" (by decide)).1
  lines := by
    intro line member
    rw [List.mem_singleton.mp member]
    exact isReadable_savedFlag (by decide) _
  different := by simp [learningTable]

theorem isReadable_logTable (settings : LogSettings) : (logTable settings).IsReadable where
  isKey := (isPlainKey_savedNames "log" (by decide)).1
  lines _ member := isReadable_of_mem_pathLines (by decide) member
  different := (sublist_pathLines "query_log" _).nodup (by simp)

theorem parse?_render {settings : Settings} (fits : Word.fitsSigned settings.resources.verbose) :
    Toml.parse? settings.render = some (.table (settings.tables.map Table.entry)) := by
  refine Toml.parse?_written settings.toList_render ?_ ?_
  · intro table member
    simp only [laterTables, List.mem_cons, List.not_mem_nil, or_false] at member
    rcases member with rfl | rfl | rfl | rfl
    · exact isReadable_resourceTable fits
    · exact isReadable_sessionTable _
    · exact isReadable_learningTable _
    · exact isReadable_logTable _
  · have names : (resourceTable settings.resources :: settings.laterTables).map Table.name =
        ["resources", "session", "learning", "log"] := rfl
    rw [names]
    decide

def savedLayer (source : String) (settings : Settings) : List (String × Given) :=
  Given.ofTomlEntries source (settings.tables.map Table.entry)

theorem layer_of_parse? {text : String} {entries : List (String × Toml.Value)}
    (parsed : Toml.parse? text = some (.table entries)) (source : String) :
    SettingsFormat.toml.layer source text = .ok (Given.ofTomlEntries source entries) := by
  unfold SettingsFormat.layer SettingsFormat.read
  dsimp only
  rw [parsed]
  rfl

theorem layer_render {settings : Settings} (fits : Word.fitsSigned settings.resources.verbose)
    (source : String) :
    SettingsFormat.toml.layer source settings.render = .ok (savedLayer source settings) :=
  layer_of_parse? (parse?_render fits) source

end ChartDialogue.Settings
