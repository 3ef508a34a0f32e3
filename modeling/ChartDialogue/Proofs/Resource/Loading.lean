import ChartDialogue.Proofs.Files.Writing
import ChartDialogue.Resource.Store

/-! # Loading from a tree of files

Loading reads files and leaves the tree as it is, so a store is loaded exactly when each of its
files can be.
-/

namespace ChartDialogue

variable {tree : FileTree}

/-! ## Steps that can fail -/

theorem run_bind_of_ok {ε α β : Type} {first : ExceptT ε (StateM FileTree) α}
    (next : α → ExceptT ε (StateM FileTree) β) {after : FileTree} {value : α}
    (succeeds : first tree = (.ok value, after)) : (first >>= next) tree = next value after := by
  simp only [bind, ExceptT.bind, ExceptT.mk, StateT.bind, succeeds]
  rfl

theorem run_bind_of_error {ε α β : Type} {first : ExceptT ε (StateM FileTree) α}
    (next : α → ExceptT ε (StateM FileTree) β) {after : FileTree} {fault : ε}
    (fails : first tree = (.error fault, after)) :
    (first >>= next) tree = (.error fault, after) := by
  simp only [bind, ExceptT.bind, ExceptT.mk, StateT.bind, fails]
  rfl

theorem run_bind_of_unchanged {ε α β : Type} {first : ExceptT ε (StateM FileTree) α}
    {next : α → ExceptT ε (StateM FileTree) β} (unchanged : (first tree).2 = tree) :
    ((first >>= next) tree).1 = (first tree).1 >>= fun value => (next value tree).1 := by
  cases outcome : first tree with
  | mk found after =>
    rw [outcome] at unchanged
    dsimp only at unchanged
    subst unchanged
    cases found with
    | error fault =>
      rw [run_bind_of_error next outcome]
      rfl
    | ok value =>
      rw [run_bind_of_ok next outcome]
      rfl

namespace Store

variable {α : Type} {parse : String → Except JsonError α} {unnamed : α}

theorem readText_eq (tree : FileTree) (name : String) :
    FileAccess.readText (m := StateM FileTree) name tree =
      ((tree.read name).bind fun bytes => (String.fromUTF8? bytes).elim (.error .badText) .ok,
        tree) := by
  simp only [FileAccess.readText, FileAccess.read, bind, StateT.bind]
  cases tree.read name with
  | error fault => rfl
  | ok bytes =>
    simp only [Except.bind]
    cases String.fromUTF8? bytes <;> rfl

theorem run_during (cause : FileFault → LoadFault)
    {action : StateM FileTree (Except FileFault α)} (unchanged : (action tree).2 = tree) :
    LoadFault.during cause action tree = ((action tree).1.mapError cause, tree) := by
  apply Prod.ext
  · rfl
  · exact unchanged

theorem loadFile_eq (tree : FileTree) (name : String) :
    loadFile (m := StateM FileTree) parse name tree =
      (((FileAccess.readText (m := StateM FileTree) name tree).1.mapError fun fault =>
          .resource name (.file fault)).bind fun text =>
        (parse text).mapError fun error => .resource name (.json error), tree) := by
  have unchanged : (FileAccess.readText (m := StateM FileTree) name tree).2 = tree := by
    rw [readText_eq]
  have during := run_during (fun fault => .resource name (.file fault)) unchanged
  cases result : (FileAccess.readText (m := StateM FileTree) name tree).1 with
  | error fault =>
    rw [result] at during
    exact run_bind_of_error _ during
  | ok text =>
    rw [result] at during
    exact run_bind_of_ok _ during

theorem loadNamed_tree (name : Option String) :
    (loadNamed (m := StateM FileTree) parse unnamed name tree).2 = tree := by
  cases name with
  | none => rfl
  | some name => rw [loadNamed, loadFile_eq]

theorem loadFile_of_holds {name text : String} (holds : tree.Holds name text.toUTF8) :
    loadFile (m := StateM FileTree) parse name tree =
      ((parse text).mapError fun error => .resource name (.json error), tree) := by
  have decoded : String.fromUTF8? text.toUTF8 = some text := dif_pos text.isValidUTF8
  rw [loadFile_eq, readText_eq, holds.read]
  simp only [Except.bind, decoded]
  rfl

theorem load_eq (settings : ResourceSettings) (tree : FileTree) :
    (load (m := StateM FileTree) settings tree).1 = do
      let colors ← (loadNamed (m := StateM FileTree) parseColors StringSet.empty
        settings.colorFile tree).1
      let templates ← (loadNamed (m := StateM FileTree) Template.parseList []
        settings.templateFile tree).1
      let examples ← (loadNamed (m := StateM FileTree) QueryLog.accepted []
        settings.exampleFile tree).1
      return { colors, templates, examples } := by
  unfold load
  rw [run_bind_of_unchanged (loadNamed_tree _)]
  congr 1
  funext colors
  rw [run_bind_of_unchanged (loadNamed_tree _)]
  congr 1
  funext templates
  rw [run_bind_of_unchanged (loadNamed_tree _)]
  rfl

theorem isOk_load (settings : ResourceSettings) (tree : FileTree) :
    (load (m := StateM FileTree) settings tree).1.isOk ↔
      (loadNamed (m := StateM FileTree) parseColors StringSet.empty settings.colorFile
        tree).1.isOk ∧
      (loadNamed (m := StateM FileTree) Template.parseList [] settings.templateFile
        tree).1.isOk ∧
      (loadNamed (m := StateM FileTree) QueryLog.accepted [] settings.exampleFile
        tree).1.isOk := by
  rw [load_eq]
  cases (loadNamed (m := StateM FileTree) parseColors StringSet.empty settings.colorFile tree).1 <;>
    cases (loadNamed (m := StateM FileTree) Template.parseList [] settings.templateFile tree).1 <;>
    cases (loadNamed (m := StateM FileTree) QueryLog.accepted [] settings.exampleFile tree).1 <;>
    simp [bind, Except.bind, pure, Except.pure, Except.isOk, Except.toBool]

theorem load_exampleFile (settings : ResourceSettings) {name : String}
    {examples : List (Members none)}
    (read : (loadNamed (m := StateM FileTree) QueryLog.accepted [] (some name) tree).1 =
      .ok examples) :
    (load (m := StateM FileTree) { settings with exampleFile := some name } tree).1 =
      (fun store => { store with examples }) <$>
        (load (m := StateM FileTree) { settings with exampleFile := none } tree).1 := by
  rw [load_eq, load_eq, read]
  cases (loadNamed (m := StateM FileTree) parseColors StringSet.empty settings.colorFile tree).1
  · rfl
  · cases (loadNamed (m := StateM FileTree) Template.parseList [] settings.templateFile tree).1 <;>
      rfl

end Store

end ChartDialogue
