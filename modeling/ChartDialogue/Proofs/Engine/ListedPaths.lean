import ChartDialogue.Proofs.Engine.CheckFaults

/-! # Listed paths lead to their nodes

A listed path was taken from typed nodes, and asking for it gives back exactly these, so a check
there always has an answer. The empty path is the exception. It is listed when a typed node is
reached without a property, through references, combinators or items alone; but an empty query
means nothing.
-/

namespace ChartDialogue

theorem PathIndex.root_mem_paths_iff {nodes : List SchemaNode} {excluded : String → Bool} :
    SimplePath.root ∈ (build nodes excluded).paths ↔
      ∃ node ∈ PathLookup.typedOf nodes, node.simplePath = .root :=
  mem_paths_build_iff.trans (and_iff_right rfl)

namespace Engine

theorem isOk_check_of_typed (grammar : Grammar) (excluded : StringSet) (store : Store)
    (rules : List Rule) {query : List String} (value : TypedValue) :
    let engine := (Resources.build grammar excluded store).engine rules
    engine.paths.schemas query ≠ [] →
    (∀ node ∈ engine.paths.schemas query, node.typed = true) →
      ∃ accepted, engine.check query value = .ok accepted := by
  intro engine leads typed
  have checked : Checked rules query value (engine.paths.schemas query)
      (engine.check query value) := checked_check grammar excluded store rules query value
  refine checked.isOk_iff.mpr ⟨leads, ?_⟩
  rintro ⟨⟨node, member, notTyped⟩, _⟩
  rw [typed node member] at notTyped
  cases notTyped

/-- Every listed path but the empty one leads to the typed nodes that have it, at least one, and a
check there has an answer for every value. The empty path leads nowhere, and a check there is a
fault, though it is listed as soon as some typed node has it. -/
theorem resolved_of_mem_paths (grammar : Grammar) (excluded : StringSet) (store : Store)
    (rules : List Rule) :
    let engine := (Resources.build grammar excluded store).engine rules
    (∀ path ∈ engine.paths.paths, path ≠ .root →
      engine.paths.schemas path.segments ≠ [] ∧
      engine.paths.schemas path.segments =
        grammar.typedNodes.filter (fun node => node.simplePath = path) ∧
      ∀ value, ∃ accepted, engine.check path.segments value = .ok accepted) ∧
    engine.paths.schemas [] = [] ∧
    (∀ value, engine.check [] value = .error (.unknownPath [])) ∧
    (SimplePath.root ∈ engine.paths.paths ↔
      ∃ node ∈ grammar.typedNodes, node.simplePath = .root) := by
  intro engine
  refine ⟨?_, rfl, fun _ => rfl, PathIndex.root_mem_paths_iff⟩
  intro path listed notRoot
  have asked : path.segments ≠ [] := fun empty => notRoot (congrArg SimplePath.mk empty)
  have resolved : engine.paths.schemas path.segments =
      grammar.typedNodes.filter fun node => node.simplePath = path :=
    PathIndex.schemas_of_mem_paths listed asked
  have found := typed_of_listed asked listed
  exact ⟨found.1, resolved, fun value =>
    isOk_check_of_typed grammar excluded store rules value found.1 found.2⟩

/-- A grammar that is a reference to charts as a whole, as grammars of charts are. -/
def referringDocument : Json :=
  .ofMembers [
    ("$ref", .string "#/definitions/Chart"),
    ("definitions", .ofMembers [("Chart", .ofMembers [
      ("type", .string "object"),
      ("properties", .ofMembers [("mark", .ofMembers [("type", .string "string")])])])])]

def referringGrammar : Grammar where
  document := referringDocument
  nodes := (descendants referringDocument).toOption.getD []
  walked := by decide +kernel

theorem resolved_mark :
    let engine := (Resources.build referringGrammar StringSet.empty {}).engine
    ⟨["mark"]⟩ ∈ engine.paths.paths ∧ (⟨["mark"]⟩ : SimplePath) ≠ .root ∧
      engine.paths.schemas ["mark"] ≠ [] ∧
      ∃ accepted, engine.check ["mark"] ⟨.string "bar", .string⟩ = .ok accepted := by
  intro engine
  have listed : ⟨["mark"]⟩ ∈ engine.paths.paths := by decide +kernel
  have notRoot : (⟨["mark"]⟩ : SimplePath) ≠ .root := by decide
  have resolved := (resolved_of_mem_paths referringGrammar StringSet.empty {} Rule.defaults).1
    ⟨["mark"]⟩ listed notRoot
  exact ⟨listed, notRoot, resolved.1, resolved.2.2 _⟩

/-- The charts themselves are a typed node with the empty path. It is listed for them, but leads
nowhere, and a check there is a fault. -/
theorem listed_root_leads_nowhere :
    let engine := (Resources.build referringGrammar StringSet.empty {}).engine
    ¬ ∀ path ∈ engine.paths.paths,
      engine.paths.schemas path.segments ≠ [] ∧
      engine.paths.schemas path.segments =
        referringGrammar.typedNodes.filter (fun node => node.simplePath = path) ∧
      ∀ value, ∃ accepted, engine.check path.segments value = .ok accepted := by
  intro engine resolved
  have listed : SimplePath.root ∈ engine.paths.paths := by decide +kernel
  exact (resolved .root listed).1 rfl

end Engine

end ChartDialogue
