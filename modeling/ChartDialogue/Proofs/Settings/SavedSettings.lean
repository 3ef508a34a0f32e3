import ChartDialogue.Proofs.Settings.FilledPaths
import ChartDialogue.Proofs.Settings.SettingsFiles

/-! # Loading saved settings

Saved settings are loaded as they are, but for the paths that are unset: a file does not say that a
path is unset, so such a path is taken from the other files if one of them gives it.
-/

namespace ChartDialogue.Settings

theorem write_of_save {settings : Settings} {name : String} {tree after : FileTree}
    (saved : save (m := StateM FileTree) settings name tree = (.ok (), after)) :
    tree.write name settings.render = .ok after := by
  have changed : FileTree.changing (fun tree => tree.write name settings.render) tree =
      (.ok (), after) := saved
  unfold FileTree.changing at changed
  dsimp only at changed
  cases written : tree.write name settings.render with
  | error fault =>
    rw [written] at changed
    cases (Prod.ext_iff.mp changed).1
  | ok other =>
    rw [written] at changed
    exact congrArg Except.ok (Prod.ext_iff.mp changed).2

theorem load_eq_fillFrom {settings : Settings} (small : settings.resources.verbose < 256)
    {tree after : FileTree} (home : tree.HasAbsoluteHome) {name : String}
    (ends : FileName.extension? name = some "toml")
    (short : (FileName.join tree.home name).utf8ByteSize ≤ FileTree.nameLimit)
    (saved : save (m := StateM FileTree) settings name tree = (.ok (), after))
    (userDirectory : Option String) {environment : List (String × String)}
    (silent : ∀ variable_ ∈ environment, Environment.setting? variable_ = none) :
    load (m := StateM FileTree) userDirectory (some name) environment after =
      ((do
        let lower ← (lowerLayers userDirectory after).1
        (settings.fillFrom (Given.ofLayers lower)).mapError .conversion), after) := by
  have written := write_of_save saved
  have sameHome := FileTree.home_of_write written
  have homeAfter : after.HasAbsoluteHome := by
    obtain ⟨isAbsolute, noSlash, noNull⟩ := home
    exact ⟨by rw [sameHome]; exact isAbsolute, by rw [sameHome]; exact noSlash,
      by rw [sameHome]; exact noNull⟩
  have named := readRequired_of_holds homeAfter (by rw [sameHome]; exact short) ends
    (FileTree.holds_of_write written)
  rw [layer_render (fitsSigned_of_lt small)] at named
  rw [load_eq userDirectory name silent after, named]
  congr 2
  funext lower
  exact congrArg (Except.mapError SettingsFault.conversion) (ofGiven_savedLayer _ small _)

/-! ## A path that another file gives -/

def schemaGiven : FileTree :=
  (FileTree.empty "/home").put ["vega.toml"] (.file "[resources]\nvega_schema = \"x\"\n".toUTF8)

def unset : Settings := { resources := { excludedPaths := StringSet.empty } }

def schemaFilled : Settings :=
  { unset with resources := { unset.resources with schemaFile := some "x" } }

def unsetSaved : FileTree := (save (m := StateM FileTree) unset "saved.toml" schemaGiven).2

theorem hasAbsoluteHome_schemaGiven : schemaGiven.HasAbsoluteHome :=
  ⟨by decide, by decide, by decide⟩

theorem save_unset :
    save (m := StateM FileTree) unset "saved.toml" schemaGiven = (.ok (), unsetSaved) := by
  have succeeds : (save (m := StateM FileTree) unset "saved.toml" schemaGiven).1 = .ok () := by
    decide +kernel
  exact Prod.ext succeeds rfl

def silentEnvironment : List (String × String) := [("PATH", "/bin")]

theorem setting?_silentEnvironment :
    ∀ variable_ ∈ silentEnvironment, Environment.setting? variable_ = none := by
  intro variable_ member
  cases List.mem_singleton.mp member
  rfl

theorem load_unset :
    load (m := StateM FileTree) none (some "saved.toml") silentEnvironment unsetSaved =
      (.ok schemaFilled, unsetSaved) := by
  have filled : ((do
      let lower ← (lowerLayers none unsetSaved).1
      (unset.fillFrom (Given.ofLayers lower)).mapError .conversion) :
        Except SettingsFault Settings).toOption = some schemaFilled := by
    decide +kernel
  rw [load_eq_fillFrom (by decide) hasAbsoluteHome_schemaGiven (by decide) (by decide) save_unset
    none setting?_silentEnvironment]
  generalize ((do
      let lower ← (lowerLayers none unsetSaved).1
      (unset.fillFrom (Given.ofLayers lower)).mapError .conversion) :
        Except SettingsFault Settings) = outcome at filled ⊢
  cases outcome with
  | error fault => cases filled
  | ok loaded =>
    exact congrArg (fun loaded => (Except.ok loaded, unsetSaved)) (Option.some.inj filled)

/-- Saved settings do not always come back as they were: a path that is unset is not in their file,
so another file that gives it is heard. -/
theorem exists_load_saved_ne :
    ¬ ∀ (settings : Settings) (tree after : FileTree) (name : String)
      (userDirectory : Option String) (environment : List (String × String)),
      settings.resources.verbose < 256 → tree.HasAbsoluteHome →
      FileName.extension? name = some "toml" →
      (FileName.join tree.home name).utf8ByteSize ≤ FileTree.nameLimit →
      save (m := StateM FileTree) settings name tree = (.ok (), after) →
      (∀ variable_ ∈ environment, Environment.setting? variable_ = none) →
      (load (m := StateM FileTree) userDirectory (some name) environment after).1 =
        .ok settings := by
  intro same
  have loaded := same unset schemaGiven unsetSaved "saved.toml" none silentEnvironment (by decide)
    hasAbsoluteHome_schemaGiven (by decide) (by decide) save_unset
    setting?_silentEnvironment
  rw [load_unset] at loaded
  have schema := congrArg (fun settings => settings.resources.schemaFile) (Except.ok.inj loaded)
  cases schema

/-! ## Everything that is set -/

/-- Settings that were saved under a name are loaded by that name with the paths that are unset
filled from the other files. So everything that is set comes back as it was, and where the other
files give nothing for the paths that are unset, all settings do. -/
theorem load_saved {settings : Settings} (small : settings.resources.verbose < 256)
    {tree after : FileTree} (home : tree.HasAbsoluteHome) {name : String}
    (ends : FileName.extension? name = some "toml")
    (short : (FileName.join tree.home name).utf8ByteSize ≤ FileTree.nameLimit)
    (saved : save (m := StateM FileTree) settings name tree = (.ok (), after))
    (userDirectory : Option String) {environment : List (String × String)}
    (silent : ∀ variable_ ∈ environment, Environment.setting? variable_ = none) :
    let loads := load (m := StateM FileTree) userDirectory (some name) environment after
    loads = ((do
        let lower ← (lowerLayers userDirectory after).1
        (settings.fillFrom (Given.ofLayers lower)).mapError .conversion), after) ∧
      (∀ loaded, loads.1 = .ok loaded → settings.Fills loaded) ∧
      (∀ lower, (lowerLayers userDirectory after).1 = .ok lower →
        settings.Leaves (Given.ofLayers lower) → loads.1 = .ok settings) := by
  have filled := load_eq_fillFrom small home ends short saved userDirectory silent
  dsimp only
  rw [filled]
  refine ⟨rfl, fun loaded result => ?_, fun lower read leaves => ?_⟩
  · rcases exists_of_bind_ok result with ⟨lower, _, result⟩
    cases conversion : settings.fillFrom (Given.ofLayers lower) with
    | error fault =>
      rw [conversion] at result
      cases result
    | ok found =>
      rw [conversion] at result
      cases result
      exact fills_of_fillFrom conversion
  · have unfilled := fillFrom_of_leaves leaves
    dsimp only
    rw [read]
    simp only [bind, Except.bind, unfilled]
    rfl

theorem load_saved_unset :
    unset.resources.verbose < 256 ∧ schemaGiven.HasAbsoluteHome ∧
      FileName.extension? "saved.toml" = some "toml" ∧
      (FileName.join schemaGiven.home "saved.toml").utf8ByteSize ≤ FileTree.nameLimit ∧
      save (m := StateM FileTree) unset "saved.toml" schemaGiven = (.ok (), unsetSaved) ∧
      (∀ variable_ ∈ silentEnvironment, Environment.setting? variable_ = none) ∧
      load (m := StateM FileTree) none (some "saved.toml") silentEnvironment unsetSaved =
        (.ok schemaFilled, unsetSaved) ∧ unset.Fills schemaFilled := by
  have small : unset.resources.verbose < 256 := by decide
  have ends : FileName.extension? "saved.toml" = some "toml" := by decide
  have short : (FileName.join schemaGiven.home "saved.toml").utf8ByteSize ≤ FileTree.nameLimit :=
    by decide
  have loads := load_saved small hasAbsoluteHome_schemaGiven ends short save_unset none
    setting?_silentEnvironment
  exact ⟨small, hasAbsoluteHome_schemaGiven, ends, short, save_unset, setting?_silentEnvironment,
    load_unset, loads.2.1 schemaFilled (congrArg Prod.fst load_unset)⟩

end ChartDialogue.Settings
