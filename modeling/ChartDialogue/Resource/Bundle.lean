import ChartDialogue.Digest.Sha256
import ChartDialogue.Engine.Synthesis
import ChartDialogue.Grammar.EnumIndex
import ChartDialogue.Grammar.Grammar
import ChartDialogue.Resource.Store

/-! # Resources

Everything that is loaded once and only read afterwards: the grammar with its indexes, and the
store.
-/

namespace ChartDialogue

structure Resources where
  grammar : Grammar
  paths : PathIndex
  literals : EnumIndex
  store : Store
  digest : String
  /-- Members that are dropped from the charts of clients. -/
  strippedKeys : StringSet := StringSet.empty
  verbose : Nat := 0

namespace Resources

def build (grammar : Grammar) (excluded : StringSet) (store : Store) : Resources where
  grammar := grammar
  paths := PathIndex.build grammar.nodes excluded.contains
  literals := EnumIndex.build grammar.typedNodes
  store := store
  digest := Sha256.ofText grammar.document.compact

def engine (resources : Resources) (rules : List Rule := Rule.defaults) : Engine :=
  ⟨resources.paths, rules⟩

variable {m : Type → Type} [Monad m] [FileAccess m]

def loadGrammar (name : String) : ExceptT LoadFault m Grammar := do
  let document ← Store.loadFile Json.parse name
  ExceptT.mk (pure ((Grammar.ofDocument document).mapError .grammar))

def load (settings : ResourceSettings) : ExceptT LoadFault m Resources := do
  match settings.schemaFile with
  | none => throw (.resource "resources.vega_schema" .notConfigured)
  | some name =>
    let grammar ← loadGrammar name
    let store ← Store.load settings
    return { build grammar settings.excludedPaths store with
      strippedKeys := settings.strippedKeys
      verbose := settings.verbose }

/-! ## Dumps -/

def nodesDump (resources : Resources) : Json :=
  .array (resources.grammar.typedNodes.filterMap resources.grammar.raw)

def pathsDump (resources : Resources) : Json :=
  .array (resources.paths.paths.map SchemaNode.encodePath)

def literalsDump (resources : Resources) : Json := .ofStrings resources.literals.literals

def dumpFiles (resources : Resources) : List (String × Json) := [
  ("vegaResource.nodes.json", resources.nodesDump),
  ("vegaResource.simplePaths.json", resources.pathsDump),
  ("vegaResource.enums.json", resources.literalsDump)]

def dump (resources : Resources) (directory : String) : ExceptT LoadFault m Unit := do
  LoadFault.during .file (FileAccess.makeDirectories (m := m) directory)
  resources.dumpFiles.forM fun (name, content) =>
    LoadFault.during .file
      (FileAccess.write (m := m) (FileName.join directory name) content.indented)

end Resources

end ChartDialogue
