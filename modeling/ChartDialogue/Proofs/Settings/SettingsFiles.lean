import ChartDialogue.Proofs.Files.AbsoluteNames
import ChartDialogue.Proofs.Resource.Loading
import ChartDialogue.Settings.File

/-! # Files of settings

Looking for settings leaves all files as they are. A file that is asked for by its whole name is
found under that name, and its text gives one more layer over those of the usual files.
-/

namespace ChartDialogue

/-! ## Looking without writing -/

def Unchanging {α : Type} (action : StateM FileTree α) : Prop := ∀ tree, (action tree).2 = tree

namespace Unchanging

variable {ε α β : Type} {first : ExceptT ε (StateM FileTree) α}
  {next : α → ExceptT ε (StateM FileTree) β}

theorem bind (before : Unchanging first) (after : ∀ value, Unchanging (next value)) :
    Unchanging (first >>= next : ExceptT ε (StateM FileTree) β) := by
  intro tree
  have unchanged := before tree
  cases outcome : first tree with
  | mk found behind =>
    rw [outcome] at unchanged
    dsimp only at unchanged
    subst unchanged
    cases found with
    | error fault => rw [run_bind_of_error next outcome]
    | ok value =>
      rw [run_bind_of_ok next outcome]
      exact after value behind

theorem lift {action : StateM FileTree α} (unchanging : Unchanging action) :
    Unchanging (liftM action : ExceptT ε (StateM FileTree) α) := fun tree => unchanging tree

theorem map {action : StateM FileTree α} (unchanging : Unchanging action) (change : α → β) :
    Unchanging (change <$> action) := fun tree => unchanging tree

theorem mapM {action : α → ExceptT ε (StateM FileTree) β}
    (each : ∀ value, Unchanging (action value)) :
    (list : List α) → Unchanging (list.mapM action : ExceptT ε (StateM FileTree) (List β)) := by
  intro list
  induction list with
  | nil => exact fun _ => rfl
  | cons value list induction =>
    rw [List.mapM_cons]
    exact (each value).bind fun _ => induction.bind fun _ _ => rfl

end Unchanging

theorem run_bind_of_lift {ε α β : Type} {action : StateM FileTree α}
    (next : α → ExceptT ε (StateM FileTree) β) {tree after : FileTree} {value : α}
    (runs : action tree = (value, after)) :
    ((liftM action : ExceptT ε (StateM FileTree) α) >>= next) tree = next value after := by
  refine run_bind_of_ok next ?_
  exact congrArg (fun result => (Except.ok result.1, result.2)) runs

theorem run_bind_of_mapError {ε α β : Type} {action : StateM FileTree (Except FileFault α)}
    {cause : FileFault → ε} (next : α → ExceptT ε (StateM FileTree) β) {tree after : FileTree}
    {value : α} (runs : action tree = (.ok value, after)) :
    (ExceptT.mk (Except.mapError cause <$> action) >>= next) tree = next value after := by
  refine run_bind_of_ok next ?_
  exact congrArg (fun result => (result.1.mapError cause, result.2)) runs

namespace Settings

theorem unchanging_findExtended (name : String) (endings : List (String × SettingsFormat)) :
    Unchanging (findExtended (m := StateM FileTree) name endings) := by
  induction endings with
  | nil => exact fun _ => rfl
  | cons ending endings induction =>
    rw [findExtended]
    cases FileName.extend? name ending.1 with
    | none => exact fun _ => rfl
    | some extended =>
      intro tree
      dsimp only
      simp only [Bind.bind, StateT.bind, FileAccess.isFile]
      split
      · rfl
      · exact induction tree

theorem unchanging_findFile (name : String) :
    Unchanging (findFile (m := StateM FileTree) name) := by
  refine Unchanging.bind (fun _ => rfl) fun directory => ?_
  refine Unchanging.bind (fun _ => rfl) fun present => ?_
  split
  · split <;> exact fun _ => rfl
  · exact (unchanging_findExtended _ _).lift

theorem unchanging_readFile (name : String) :
    Unchanging (readFile (m := StateM FileTree) name) := by
  refine (unchanging_findFile name).bind fun found => ?_
  cases found with
  | none => exact fun _ => rfl
  | some found =>
    have readText : Unchanging (FileAccess.readText (m := StateM FileTree) found.name) :=
      fun tree => by rw [Store.readText_eq]
    exact Unchanging.bind (readText.map _) fun _ _ => rfl

theorem unchanging_readOptional (name : String) :
    Unchanging (readOptional (m := StateM FileTree) name) := by
  refine Unchanging.bind ((unchanging_readFile name).map Except.ok) fun outcome => ?_
  cases outcome <;> exact fun _ => rfl

theorem unchanging_readRequired (name : String) :
    Unchanging (readRequired (m := StateM FileTree) name) :=
  (unchanging_readFile name).bind fun _ _ => rfl

theorem unchanging_readUser (directory : String) :
    Unchanging (readUser (m := StateM FileTree) directory) := by
  refine Unchanging.bind (fun _ => rfl) fun present => ?_
  split
  · exact unchanging_readOptional _
  · exact fun _ => rfl

/-! ## Layers below a file that is asked for -/

def lowerLayers (userDirectory : Option String) :
    ExceptT SettingsFault (StateM FileTree) (List (List (String × Given))) := do
  let usual ← usualFiles.mapM (readOptional (m := StateM FileTree))
  let user ← userDirectory.toList.mapM (readUser (m := StateM FileTree))
  return usual ++ user

theorem unchanging_lowerLayers (userDirectory : Option String) :
    Unchanging (lowerLayers userDirectory) :=
  (Unchanging.mapM unchanging_readOptional usualFiles).bind fun _ =>
    (Unchanging.mapM unchanging_readUser userDirectory.toList).bind fun _ _ => rfl

/-- A file of settings that is asked for by its whole name is found under that name. -/
theorem readRequired_of_holds {tree : FileTree} {name text : String}
    (home : tree.HasAbsoluteHome)
    (short : (FileName.join tree.home name).utf8ByteSize ≤ FileTree.nameLimit)
    (ends : FileName.extension? name = some "toml") (holds : tree.Holds name text.toUTF8) :
    readRequired (m := StateM FileTree) name tree =
      (SettingsFormat.toml.layer
        (sourceName tree.home (FileName.join tree.home name)) text, tree) := by
  have found := FileTree.read_join home short holds.read
  have isFile : tree.isFile (FileName.join tree.home name) = true := by
    rw [FileTree.isFile, found]
    rfl
  have format : SettingsFormat.ofName? (FileName.join tree.home name) = some .toml := by
    have extension := FileTree.extension?_join home ends
    rw [SettingsFormat.ofName?, extension]
    rfl
  have here : FileAccess.currentDirectory (m := StateM FileTree) tree = (tree.home, tree) := rfl
  have present : FileAccess.isFile (m := StateM FileTree) (FileName.join tree.home name) tree =
      (true, tree) := congrArg (·, tree) isFile
  have file : findFile (m := StateM FileTree) name tree =
      (.ok (some ⟨FileName.join tree.home name, .toml⟩), tree) := by
    unfold findFile
    rw [run_bind_of_lift _ here, run_bind_of_lift _ present, if_pos rfl, format]
    rfl
  have read : FileAccess.readText (m := StateM FileTree) (FileName.join tree.home name) tree =
      (.ok text, tree) := by
    have decoded : String.fromUTF8? text.toUTF8 = some text := dif_pos text.isValidUTF8
    rw [Store.readText_eq, found]
    simp only [Except.bind, decoded]
    rfl
  have whole : readFile (m := StateM FileTree) name tree =
      (.ok (⟨FileName.join tree.home name, .toml⟩, text), tree) := by
    rw [readFile, run_bind_of_ok _ file]
    exact run_bind_of_mapError _ read
  rw [readRequired, run_bind_of_ok _ whole]
  rfl

/-- A load is what its layers give, the one of the file that was asked for over all others. -/
theorem load_eq (userDirectory : Option String) (name : String)
    {environment : List (String × String)}
    (silent : ∀ variable_ ∈ environment, Environment.setting? variable_ = none) (tree : FileTree) :
    load (m := StateM FileTree) userDirectory (some name) environment tree =
      ((do
        let lower ← (lowerLayers userDirectory tree).1
        let named ← (readRequired (m := StateM FileTree) name tree).1
        (ofGiven ((Given.ofLayers lower).addLayer named)).mapError .conversion), tree) := by
  have nothing : Environment.layer environment = [] := List.filterMap_eq_nil_iff.mpr silent
  have joined (lower : List (List (String × Given))) (named : List (String × Given)) :
      Given.ofLayers (lower ++ [named] ++ [[]]) = (Given.ofLayers lower).addLayer named := by
    simp [Given.ofLayers, Given.addLayer]
  have layers : load (m := StateM FileTree) userDirectory (some name) environment = (do
      let lower ← lowerLayers userDirectory
      let named ← readRequired (m := StateM FileTree) name
      ExceptT.mk (pure ((ofGiven ((Given.ofLayers lower).addLayer named)).mapError
        .conversion))) := by
    simp only [load, lowerLayers, bind_assoc, pure_bind, Option.toList_some, List.mapM_cons,
      List.mapM_nil, nothing, joined]
  have unchanging : Unchanging (load (m := StateM FileTree) userDirectory (some name)
      environment) := by
    rw [layers]
    exact (unchanging_lowerLayers userDirectory).bind fun _ =>
      (unchanging_readRequired name).bind fun _ _ => rfl
  refine Prod.ext ?_ (unchanging tree)
  rw [layers, run_bind_of_unchanged (unchanging_lowerLayers userDirectory tree)]
  congr 1
  funext lower
  rw [run_bind_of_unchanged (unchanging_readRequired name tree)]
  rfl

end Settings

end ChartDialogue
