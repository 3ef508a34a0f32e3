import ChartDialogue.Proofs.Json.Decoding
import ChartDialogue.Proofs.Settings.Layers
import ChartDialogue.Proofs.Settings.SavedText

/-! # Unset paths

Saved settings do not mention the paths that are unset, so what is given below them fills these
paths. Everything else that is given below is covered.
-/

namespace ChartDialogue

open Toml (Line Table)

/-! ## Filling -/

def fillPath (own : Option String) (given : Given) (outer key : String) :
    Except ConversionFault (Option String) :=
  match own with
  | some path => .ok (some path)
  | none =>
    match Given.under? (Given.under? (some given) outer) key with
    | none => .ok none
    | some value => value.path? (Given.within outer key)

def ResourceSettings.fillFrom (settings : ResourceSettings) (given : Given) :
    Except ConversionFault ResourceSettings := do
  let schemaFile ← fillPath settings.schemaFile given "resources" "vega_schema"
  let colorFile ← fillPath settings.colorFile given "resources" "color_file"
  let templateFile ← fillPath settings.templateFile given "resources" "initial_templates"
  let exampleFile ← fillPath settings.exampleFile given "resources" "query_path"
  return { settings with schemaFile, colorFile, templateFile, exampleFile }

def SessionSettings.fillFrom (settings : SessionSettings) (given : Given) :
    Except ConversionFault SessionSettings := do
  let dumpDirectory ← fillPath settings.dumpDirectory given "session" "int_output_path"
  return { settings with dumpDirectory }

/-- An unset query log leaves the saved section empty, so the whole section is as it is given. -/
def LogSettings.fillFrom (settings : LogSettings) (given : Given) :
    Except ConversionFault LogSettings :=
  match settings.queryLog with
  | some _ => .ok settings
  | none => LogSettings.ofGiven "log" ((Given.under? (some given) "log").getD Given.empty)

def Settings.fillFrom (settings : Settings) (given : Given) : Except ConversionFault Settings := do
  let resources ← settings.resources.fillFrom given
  let session ← settings.session.fillFrom given
  let log ← settings.log.fillFrom given
  return { settings with resources, session, log }

namespace Settings

/-! ## Entries of saved sections -/

def givenBy (source : String) (lines : List Line) : List (String × Given) :=
  Given.ofTomlEntries source (lines.map Line.entry)

theorem givenBy_eq_map (source : String) (lines : List Line) :
    givenBy source lines = lines.map fun line => (line.key, Given.ofToml source line.value) := by
  induction lines with
  | nil => rfl
  | cons line lines induction =>
    rw [List.map_cons, ← induction]
    rfl

theorem keys_givenBy (source : String) (lines : List Line) :
    (givenBy source lines).map Prod.fst = lines.map Line.key := by
  rw [givenBy_eq_map, List.map_map]
  rfl

theorem lookup_givenBy_append (source key : String) (front back : List Line) :
    (givenBy source (front ++ back)).lookup key =
      ((givenBy source front).lookup key).or ((givenBy source back).lookup key) := by
  rw [givenBy_eq_map, givenBy_eq_map, givenBy_eq_map, List.map_append, List.lookup_append]

theorem lookup_givenBy_cons (source key : String) (line : Line) (lines : List Line) :
    (givenBy source (line :: lines)).lookup key =
      if key = line.key then some (Given.ofToml source line.value)
      else (givenBy source lines).lookup key :=
  Given.lookup_cons_if _ _ _ _

theorem lookup_givenBy_nil (source key : String) : (givenBy source []).lookup key = none := rfl

def givenPath (source : String) (path : Option String) : Option Given :=
  path.map fun text => .scalar source (.text text)

theorem lookup_givenBy_pathLines (source key other : String) (path : Option String) :
    (givenBy source (pathLines key path)).lookup other =
      if other = key then givenPath source path else none := by
  cases path with
  | none => split_ifs <;> rfl
  | some text => exact Given.lookup_cons_if _ _ _ _

def savedSection (source : String) (table : Table) : Given :=
  .section (some source) (givenBy source table.lines)

/-- Whether a section has what entries give, laid over what is below, key by key. -/
structure LaidOver (below : Option Given) (entries : List (String × Given)) (laid : Given) :
    Prop where
  isSection : laid.isSection
  stands : ∀ key, Given.under? (some laid) key =
    ((entries.lookup key).map (Given.layOver (Given.under? below key))).or (Given.under? below key)

theorem laidOver_savedSection (source : String) {table : Table} (readable : table.IsReadable)
    (lower : ∀ line ∈ table.lines, Text.lower line.key = line.key) (nonempty : table.lines ≠ [])
    (below : Option Given) :
    LaidOver below (givenBy source table.lines)
      (Given.layOver below (savedSection source table)) where
  isSection := by
    refine Given.isSection_layOver _ _ ?_
    rw [givenBy_eq_map]
    exact fun none => nonempty (List.map_eq_nil_iff.mp none)
  stands key := by
    refine Given.under?_layOver (some source) ?_ ?_ key
    · intro entry member
      rw [givenBy_eq_map] at member
      obtain ⟨line, inside, rfl⟩ := List.mem_map.mp member
      exact lower line inside
    · rw [keys_givenBy]
      exact readable.different

/-! ## Reading what is laid over -/

section

variable {given laid : Given} {outer key : String} {entries : List (String × Given)}
  {position : Nat}

theorem LaidOver.read_path (laidOver : LaidOver (Given.under? (some given) outer) entries laid)
    {source : String} {own : Option String} (found : entries.lookup key = givenPath source own)
    (position : Nat) :
    (fun path => path.getD none) <$> (laid.fieldsUnder outer).read key position Given.path? =
      fillPath own given outer key := by
  rw [Given.read_fieldsUnder, laidOver.stands, found]
  cases own with
  | some path => rfl
  | none =>
    rw [fillPath]
    cases Given.under? (Given.under? (some given) outer) key with
    | none => rfl
    | some value =>
      dsimp only [givenPath, Option.map, Option.or]
      cases value.path? (Given.within outer key) <;> rfl

theorem LaidOver.read_value {below : Option Given} (laidOver : LaidOver below entries laid)
    (outer : String) {α : Type} (convert : String → Given → Except ConversionFault α)
    {value : Given} {result : α}
    (found : entries.lookup key = some value) (covers : ∀ below, Given.layOver below value = value)
    (converted : convert (Given.within outer key) value = .ok result) (position : Nat) :
    (laid.fieldsUnder outer).read key position convert = .ok (some result) := by
  rw [Given.read_fieldsUnder, laidOver.stands, found]
  dsimp only [Option.map, Option.or]
  rw [covers, converted]
  rfl

end

theorem texts_strings (source place : String) (texts : List String) :
    (position : Nat) →
      Given.texts place position (Given.ofTomlElements source (texts.map .string)) = .ok texts := by
  induction texts with
  | nil => exact fun _ => rfl
  | cons text texts induction =>
    intro position
    rw [List.map_cons, Given.ofTomlElements, Given.texts, induction]
    rfl

theorem ofList_toList (texts : StringSet) : StringSet.ofList texts.toList = texts := by
  have entries : texts.toList.map (fun member => (member, ())) = texts.entries := by
    have keys : texts.toList = texts.entries.map Prod.fst := rfl
    rw [keys, List.map_map]
    exact List.map_id _
  rw [StringSet.ofList, entries]
  exact StringMap.ofList_entries texts

theorem textSet_savedSet (source place key : String) (texts : StringSet) :
    Given.textSet place (Given.ofToml source (savedSet key texts).value) = .ok texts := by
  rw [savedSet, Given.ofToml, Given.textSet, texts_strings]
  exact congrArg Except.ok (ofList_toList texts)

theorem byte_savedNumber (source place key : String) {number : Nat} (small : number < 256) :
    Given.byte place (Given.ofToml source (savedNumber key number).value) = .ok number := by
  have natural : Given.natural place (Given.ofToml source (savedNumber key number).value) =
      .ok number := by
    rw [savedNumber, Given.ofToml, Given.natural, if_pos (Int.natCast_nonneg number)]
    rfl
  rw [Given.byte, natural]
  exact if_pos small

/-! ## Sections -/

theorem lookup_resourceTable (source : String) (settings : ResourceSettings) :
    let found key := (givenBy source (resourceTable settings).lines).lookup key
    found "vega_schema" = givenPath source settings.schemaFile ∧
      found "color_file" = givenPath source settings.colorFile ∧
      found "initial_templates" = givenPath source settings.templateFile ∧
      found "query_path" = givenPath source settings.exampleFile ∧
      found "excluded_paths" =
        some (.ofToml source (savedSet "excluded_paths" settings.excludedPaths).value) ∧
      found "excluded_context_paths" =
        some (.ofToml source (savedSet "excluded_context_paths" settings.strippedKeys).value) ∧
      found "verbose" = some (.ofToml source (savedNumber "verbose" settings.verbose).value) := by
  simp [resourceTable, lookup_givenBy_append, lookup_givenBy_cons, lookup_givenBy_nil,
    lookup_givenBy_pathLines, savedSet, savedNumber]

theorem fitsSigned_of_lt {number : Nat} (small : number < 256) : Word.fitsSigned number := by
  refine decide_eq_true ?_
  unfold Word.signedLimit
  omega

theorem lookup_sessionTable (source : String) (settings : SessionSettings) :
    let found key := (givenBy source (sessionTable settings).lines).lookup key
    found "int_output_path" = givenPath source settings.dumpDirectory ∧
      found "only_interactive" = some (.scalar source (.boolean settings.onlyInteractive)) ∧
      found "allow_regular_commands" =
        some (.scalar source (.boolean settings.allowExpressions)) := by
  simp [sessionTable, lookup_givenBy_append, lookup_givenBy_cons, lookup_givenBy_nil,
    lookup_givenBy_pathLines, savedFlag, Given.ofToml]

theorem lower_of_sublist {lines : List Line} {keys : List String}
    (sublist : (lines.map Line.key).Sublist keys) (saved : ∀ key ∈ keys, key ∈ savedNames) :
    ∀ line ∈ lines, Text.lower line.key = line.key := by
  intro line member
  have isSaved := saved line.key (sublist.subset (List.mem_map_of_mem member))
  exact (isPlainKey_savedNames line.key isSaved).2

theorem lower_resourceTable (settings : ResourceSettings) :
    ∀ line ∈ (resourceTable settings).lines, Text.lower line.key = line.key :=
  lower_of_sublist (sublist_resourceTable settings) (by decide)

theorem lower_sessionTable (settings : SessionSettings) :
    ∀ line ∈ (sessionTable settings).lines, Text.lower line.key = line.key :=
  lower_of_sublist (sublist_sessionTable settings) (by decide)

theorem lower_learningTable (settings : LearningSettings) :
    ∀ line ∈ (learningTable settings).lines, Text.lower line.key = line.key :=
  lower_of_sublist (List.Sublist.refl ["online_learn_examples"]) (by decide)

theorem lower_logTable (settings : LogSettings) :
    ∀ line ∈ (logTable settings).lines, Text.lower line.key = line.key :=
  lower_of_sublist (sublist_pathLines "query_log" _) (by decide)

theorem ofGiven_resources (source : String) {settings : ResourceSettings}
    (small : settings.verbose < 256) (given : Given) :
    ResourceSettings.ofGiven "resources"
        (Given.layOver (Given.under? (some given) "resources")
          (savedSection source (resourceTable settings))) =
      settings.fillFrom given := by
  have laidOver := laidOver_savedSection source
    (isReadable_resourceTable (fitsSigned_of_lt small)) (lower_resourceTable settings)
    (by simp [resourceTable]) (Given.under? (some given) "resources")
  generalize Given.layOver (Given.under? (some given) "resources")
    (savedSection source (resourceTable settings)) = laid at laidOver
  obtain ⟨schemaFile, colorFile, templateFile, exampleFile, excludedPaths, strippedKeys, verbose⟩ :=
    lookup_resourceTable source settings
  have excludedPaths := laidOver.read_value "resources" Given.textSet excludedPaths (fun _ => rfl)
    (textSet_savedSet source _ _ _) 4
  have strippedKeys := laidOver.read_value "resources" Given.textSet strippedKeys (fun _ => rfl)
    (textSet_savedSet source _ _ _) 5
  have verbose := laidOver.read_value "resources" Given.byte verbose (fun _ => rfl)
    (byte_savedNumber source _ _ small) 6
  rw [ResourceSettings.ofGiven, Given.fields_of_isSection laidOver.isSection,
    ResourceSettings.fillFrom, ← laidOver.read_path schemaFile 0, ← laidOver.read_path colorFile 1,
    ← laidOver.read_path templateFile 2, ← laidOver.read_path exampleFile 3]
  simp only [bind, Except.bind, excludedPaths, strippedKeys, verbose]
  -- A path that cannot be converted ends both sides; otherwise the next path is read.
  rcases (laid.fieldsUnder "resources").read "vega_schema" 0 Given.path? with _ | schemaFile
  · rfl
  rcases (laid.fieldsUnder "resources").read "color_file" 1 Given.path? with _ | colorFile
  · rfl
  rcases (laid.fieldsUnder "resources").read "initial_templates" 2 Given.path? with _ | templateFile
  · rfl
  rcases (laid.fieldsUnder "resources").read "query_path" 3 Given.path? with _ | exampleFile
  · rfl
  · rfl

theorem ofGiven_session (source : String) (settings : SessionSettings) (given : Given) :
    SessionSettings.ofGiven "session"
        (Given.layOver (Given.under? (some given) "session")
          (savedSection source (sessionTable settings))) =
      settings.fillFrom given := by
  have laidOver := laidOver_savedSection source (isReadable_sessionTable settings)
    (lower_sessionTable settings) (by simp [sessionTable]) (Given.under? (some given) "session")
  generalize Given.layOver (Given.under? (some given) "session")
    (savedSection source (sessionTable settings)) = laid at laidOver
  obtain ⟨dumpDirectory, onlyInteractive, allowExpressions⟩ := lookup_sessionTable source settings
  have onlyInteractive := laidOver.read_value "session" Given.boolean onlyInteractive
    (fun _ => rfl) rfl 1
  have allowExpressions := laidOver.read_value "session" Given.boolean allowExpressions
    (fun _ => rfl) rfl 2
  rw [SessionSettings.ofGiven, Given.fields_of_isSection laidOver.isSection,
    SessionSettings.fillFrom, ← laidOver.read_path dumpDirectory 0]
  simp only [bind, Except.bind, onlyInteractive, allowExpressions]
  cases (laid.fieldsUnder "session").read "int_output_path" 0 Given.path? <;> rfl

theorem ofGiven_learning (source : String) (settings : LearningSettings) (below : Option Given) :
    LearningSettings.ofGiven "learning"
        (Given.layOver below (savedSection source (learningTable settings))) = .ok settings := by
  have laidOver := laidOver_savedSection source (isReadable_learningTable settings)
    (lower_learningTable settings) (by simp [learningTable]) below
  generalize Given.layOver below (savedSection source (learningTable settings)) = laid at laidOver
  have found : (givenBy source (learningTable settings).lines).lookup "online_learn_examples" =
      some (.scalar source (.boolean settings.learnExamples)) :=
    lookup_givenBy_cons _ _ _ _
  have learnExamples := laidOver.read_value "learning" Given.boolean found (fun _ => rfl) rfl 0
  rw [LearningSettings.ofGiven, Given.fields_of_isSection laidOver.isSection]
  simp only [bind, Except.bind, learnExamples]
  rfl

/-- The log section is empty if there is no query log, and then nothing is laid over. -/
theorem ofGiven_log (source : String) (settings : LogSettings) (given : Given) :
    LogSettings.ofGiven "log"
        (Given.layOver (Given.under? (some given) "log")
          (savedSection source (logTable settings))) =
      settings.fillFrom given := by
  rcases settings with ⟨_ | queryLog⟩
  · rfl
  · have laidOver := laidOver_savedSection source (isReadable_logTable ⟨some queryLog⟩)
      (lower_logTable ⟨some queryLog⟩) (by simp [logTable, pathLines])
      (Given.under? (some given) "log")
    generalize Given.layOver (Given.under? (some given) "log")
      (savedSection source (logTable ⟨some queryLog⟩)) = laid at laidOver
    have found : (givenBy source (logTable ⟨some queryLog⟩).lines).lookup "query_log" =
        some (.scalar source (.text queryLog)) :=
      lookup_givenBy_cons _ _ _ _
    have read := laidOver.read_value "log" Given.path? found (fun _ => rfl) rfl 0
    rw [LogSettings.ofGiven, Given.fields_of_isSection laidOver.isSection]
    simp only [bind, Except.bind, read]
    rfl

/-! ## Whole settings -/

theorem keys_savedLayer (source : String) (settings : Settings) :
    (savedLayer source settings).map Prod.fst = ["resources", "session", "learning", "log"] := rfl

theorem isPlainKey_of_mem_savedLayer (source : String) (settings : Settings) :
    ∀ entry ∈ savedLayer source settings, Given.IsPlainKey entry.1 := by
  have plain : ∀ name ∈ ["resources", "session", "learning", "log"], Given.IsPlainKey name := by
    unfold Given.IsPlainKey
    decide +kernel
  intro entry member
  refine plain entry.1 ?_
  rw [← keys_savedLayer source settings]
  exact List.mem_map_of_mem member

theorem lookup_savedLayer (source : String) (settings : Settings) :
    let found key := (savedLayer source settings).lookup key
    found "resources" = some (savedSection source (resourceTable settings.resources)) ∧
      found "session" = some (savedSection source (sessionTable settings.session)) ∧
      found "learning" = some (savedSection source (learningTable settings.learning)) ∧
      found "log" = some (savedSection source (logTable settings.log)) :=
  ⟨rfl, rfl, rfl, rfl⟩

/-- Saved settings that are laid over anything are the settings, with the paths that are unset
filled from what is below. -/
theorem ofGiven_savedLayer (source : String) {settings : Settings}
    (small : settings.resources.verbose < 256) (given : Given) :
    ofGiven (Given.addLayer given (savedLayer source settings)) = settings.fillFrom given := by
  have plain := isPlainKey_of_mem_savedLayer source settings
  have different : ((savedLayer source settings).map Prod.fst).Nodup := by
    rw [keys_savedLayer]
    decide
  have isSection := Given.isSection_addLayer given plain (List.cons_ne_nil _ _)
  have stands := Given.under?_addLayer given plain different
  obtain ⟨resources, session, learning, log⟩ := lookup_savedLayer source settings
  generalize Given.addLayer given (savedLayer source settings) = whole at isSection stands
  have read {α : Type} (name : String) (position : Nat) {inner : Given}
      (convert : String → Given → Except ConversionFault α)
      (found : (savedLayer source settings).lookup name = some inner) :
      (whole.fieldsUnder "").read name position convert =
        some <$> convert name (Given.layOver (Given.under? (some given) name) inner) := by
    rw [Given.read_fieldsUnder, stands, found]
    rfl
  rw [ofGiven, Given.fields_of_isSection isSection, fillFrom]
  simp only [bind, Except.bind, read "resources" 0 ResourceSettings.ofGiven resources,
    read "session" 1 SessionSettings.ofGiven session,
    read "learning" 2 LearningSettings.ofGiven learning, read "log" 3 LogSettings.ofGiven log,
    ofGiven_resources source small, ofGiven_session, ofGiven_learning, ofGiven_log]
  cases settings.resources.fillFrom given with
  | error fault => rfl
  | ok resources =>
    cases settings.session.fillFrom given with
    | error fault => rfl
    | ok session => cases settings.log.fillFrom given <;> rfl

/-! ## What filling keeps -/

/-- Whether loaded settings are some settings in which paths that are unset may have been filled. -/
structure Fills (settings loaded : Settings) : Prop where
  schemaFile : ∀ path, settings.resources.schemaFile = some path →
    loaded.resources.schemaFile = some path
  colorFile : ∀ path, settings.resources.colorFile = some path →
    loaded.resources.colorFile = some path
  templateFile : ∀ path, settings.resources.templateFile = some path →
    loaded.resources.templateFile = some path
  exampleFile : ∀ path, settings.resources.exampleFile = some path →
    loaded.resources.exampleFile = some path
  excludedPaths : loaded.resources.excludedPaths = settings.resources.excludedPaths
  strippedKeys : loaded.resources.strippedKeys = settings.resources.strippedKeys
  verbose : loaded.resources.verbose = settings.resources.verbose
  dumpDirectory : ∀ path, settings.session.dumpDirectory = some path →
    loaded.session.dumpDirectory = some path
  onlyInteractive : loaded.session.onlyInteractive = settings.session.onlyInteractive
  allowExpressions : loaded.session.allowExpressions = settings.session.allowExpressions
  learning : loaded.learning = settings.learning
  queryLog : ∀ path, settings.log.queryLog = some path → loaded.log.queryLog = some path

structure Leaves (settings : Settings) (given : Given) : Prop where
  schemaFile : settings.resources.schemaFile = none →
    Given.under? (Given.under? (some given) "resources") "vega_schema" = none
  colorFile : settings.resources.colorFile = none →
    Given.under? (Given.under? (some given) "resources") "color_file" = none
  templateFile : settings.resources.templateFile = none →
    Given.under? (Given.under? (some given) "resources") "initial_templates" = none
  exampleFile : settings.resources.exampleFile = none →
    Given.under? (Given.under? (some given) "resources") "query_path" = none
  dumpDirectory : settings.session.dumpDirectory = none →
    Given.under? (Given.under? (some given) "session") "int_output_path" = none
  log : settings.log.queryLog = none → ((Given.under? (some given) "log").all Given.isSection ∧
    Given.under? (Given.under? (some given) "log") "query_log" = none)

theorem fillPath_of_some {own : Option String} {given : Given} {outer key : String}
    {filled : Option String} (fills : fillPath own given outer key = .ok filled) (path : String)
    (isSet : own = some path) : filled = some path := by
  rw [isSet] at fills
  cases fills
  rfl

theorem fillPath_of_none {own : Option String} {given : Given} {outer key : String}
    (free : own = none → Given.under? (Given.under? (some given) outer) key = none) :
    fillPath own given outer key = .ok own := by
  cases own with
  | some path => rfl
  | none =>
    rw [fillPath, free rfl]

theorem fills_of_fillFrom {settings loaded : Settings} {given : Given}
    (filled : settings.fillFrom given = .ok loaded) : settings.Fills loaded := by
  rcases exists_of_bind_ok filled with ⟨resources, inResources, filled⟩
  rcases exists_of_bind_ok filled with ⟨session, inSession, filled⟩
  rcases exists_of_bind_ok filled with ⟨log, inLog, filled⟩
  rcases exists_of_bind_ok inResources with ⟨schemaFile, schema, inResources⟩
  rcases exists_of_bind_ok inResources with ⟨colorFile, color, inResources⟩
  rcases exists_of_bind_ok inResources with ⟨templateFile, template, inResources⟩
  rcases exists_of_bind_ok inResources with ⟨exampleFile, examples, inResources⟩
  rcases exists_of_bind_ok inSession with ⟨dumpDirectory, dump, inSession⟩
  cases inResources
  cases inSession
  cases filled
  refine ⟨fillPath_of_some schema, fillPath_of_some color, fillPath_of_some template,
    fillPath_of_some examples, rfl, rfl, rfl, fillPath_of_some dump, rfl, rfl, rfl, ?_⟩
  intro path isSet
  rw [LogSettings.fillFrom, isSet] at inLog
  cases inLog
  exact isSet

theorem fillFrom_log {settings : LogSettings} {given : Given}
    (leaves : settings.queryLog = none → ((Given.under? (some given) "log").all Given.isSection ∧
      Given.under? (Given.under? (some given) "log") "query_log" = none)) :
    settings.fillFrom given = .ok settings := by
  rcases settings with ⟨_ | path⟩
  · obtain ⟨sections, free⟩ := leaves rfl
    have isSection : ((Given.under? (some given) "log").getD Given.empty).isSection := by
      cases stands : Given.under? (some given) "log" with
      | none => rfl
      | some log =>
        rw [stands] at sections
        exact sections
    rw [LogSettings.fillFrom]
    dsimp only
    rw [LogSettings.ofGiven, Given.fields_of_isSection isSection]
    simp only [bind, Except.bind]
    rw [Given.read_fieldsUnder]
    have inside : Given.under? (some ((Given.under? (some given) "log").getD Given.empty))
        "query_log" = none := free
    rw [inside]
    rfl
  · rfl

theorem fillFrom_of_leaves {settings : Settings} {given : Given} (leaves : settings.Leaves given) :
    settings.fillFrom given = .ok settings := by
  have resources : settings.resources.fillFrom given = .ok settings.resources := by
    rw [ResourceSettings.fillFrom, fillPath_of_none leaves.schemaFile,
      fillPath_of_none leaves.colorFile, fillPath_of_none leaves.templateFile,
      fillPath_of_none leaves.exampleFile]
    rfl
  have session : settings.session.fillFrom given = .ok settings.session := by
    rw [SessionSettings.fillFrom, fillPath_of_none leaves.dumpDirectory]
    rfl
  have log : settings.log.fillFrom given = .ok settings.log := fillFrom_log leaves.log
  rw [fillFrom, resources, session, log]
  rfl

end Settings

end ChartDialogue
