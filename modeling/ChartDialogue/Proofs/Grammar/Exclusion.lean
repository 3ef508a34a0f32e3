import ChartDialogue.Proofs.Grammar.QueryMeaning

/-! # Exclusion is a filter

An index is made in one pass over the nodes: each typed node is counted, a node whose path meets an
excluded segment is skipped, and any other is numbered and put under its path. A skipped node leaves
no trace but the count, so the index is that of the nodes that remain.
-/

namespace ChartDialogue

open PathLookup

/-! ## One pass -/

structure IndexScan where
  /-- The paths of typed nodes, whether they are skipped or not. -/
  typedPaths : List SimplePath
  nodes : Array SchemaNode
  listed : List PathGroup
  untyped : List PathGroup

namespace IndexScan

def start : IndexScan := ⟨[], #[], [], []⟩

def count (scan : IndexScan) (node : SchemaNode) : IndexScan :=
  if node.typed = true ∧ node.simplePath ∉ scan.typedPaths then
    { scan with typedPaths := scan.typedPaths ++ [node.simplePath] }
  else scan

def keep (scan : IndexScan) (node : SchemaNode) : IndexScan :=
  let position := scan.nodes.size
  if node.typed then
    { scan with
      nodes := scan.nodes.push node
      listed := PathGroup.add node.simplePath position scan.listed }
  else
    { scan with
      nodes := scan.nodes.push node
      untyped := PathGroup.add node.simplePath position scan.untyped }

def visit (excluded : String → Bool) (scan : IndexScan) (node : SchemaNode) : IndexScan :=
  if node.simplePath.meets excluded then scan.count node else (scan.count node).keep node

def ofNodes (nodes : List SchemaNode) (excluded : String → Bool) : IndexScan :=
  nodes.foldl (visit excluded) start

/-- Untyped nodes are left where no typed node has their path. -/
def finish (scan : IndexScan) : PathIndex where
  nodes := scan.nodes
  listed := scan.listed
  untypedOnly := scan.untyped.filter fun group => group.path ∉ scan.listed.map (·.path)
  unfilteredCount := scan.typedPaths.length

/-! ## What a pass has seen -/

structure Holds (scan : IndexScan) (seen : List SchemaNode) (excluded : String → Bool) :
    Prop where
  typedPaths : scan.typedPaths = pathsOf (typedOf seen)
  nodes : scan.nodes = (admitted seen excluded).toArray
  listed : scan.listed = PathGroup.ofNumbered (numberedWhere (admitted seen excluded) (·.typed))
  untyped : scan.untyped =
    PathGroup.ofNumbered (numberedWhere (admitted seen excluded) fun node => ¬ node.typed)

@[simp] theorem nodes_count (scan : IndexScan) (node : SchemaNode) :
    (scan.count node).nodes = scan.nodes := by
  unfold count
  split <;> rfl

@[simp] theorem listed_count (scan : IndexScan) (node : SchemaNode) :
    (scan.count node).listed = scan.listed := by
  unfold count
  split <;> rfl

@[simp] theorem untyped_count (scan : IndexScan) (node : SchemaNode) :
    (scan.count node).untyped = scan.untyped := by
  unfold count
  split <;> rfl

@[simp] theorem typedPaths_keep (scan : IndexScan) (node : SchemaNode) :
    (scan.keep node).typedPaths = scan.typedPaths := by
  unfold keep
  split <;> rfl

theorem typedPaths_count {scan : IndexScan} {seen : List SchemaNode}
    (counted : scan.typedPaths = pathsOf (typedOf seen)) (node : SchemaNode) :
    (scan.count node).typedPaths = pathsOf (typedOf (seen ++ [node])) := by
  cases typed : node.typed with
  | false => simp [count, typedOf, typed, counted]
  | true =>
    have longer : pathsOf (typedOf (seen ++ [node])) =
        distinct ((typedOf seen).map (·.simplePath) ++ [node.simplePath]) := by
      simp [pathsOf, typedOf, typed]
    rw [longer, distinct_concat, count, counted]
    by_cases known : node.simplePath ∈ pathsOf (typedOf seen)
    · have listed := mem_distinct.mp known
      simp [typed, listed, counted, pathsOf]
    · have unlisted := fun listed => known (mem_distinct.mpr listed)
      rw [if_pos ⟨typed, known⟩, if_neg unlisted]
      rfl

theorem ofNumbered_concat (front : List (SchemaNode × Nat)) (entry : SchemaNode × Nat) :
    PathGroup.ofNumbered (front ++ [entry]) =
      PathGroup.add entry.1.simplePath entry.2 (PathGroup.ofNumbered front) := by
  rw [PathGroup.ofNumbered, List.foldl_append]
  rfl

theorem numberedWhere_concat (nodes : List SchemaNode) (node : SchemaNode)
    (test : SchemaNode → Bool) :
    numberedWhere (nodes ++ [node]) test =
      numberedWhere nodes test ++ if test node then [(node, nodes.length)] else [] := by
  rw [numberedWhere, List.zipIdx_append, List.filter_append]
  cases passes : test node <;> simp [numberedWhere, passes]

theorem Holds.skip {scan : IndexScan} {seen : List SchemaNode} {excluded : String → Bool}
    (holds : scan.Holds seen excluded) {node : SchemaNode}
    (skipped : node.simplePath.meets excluded = true) :
    (scan.count node).Holds (seen ++ [node]) excluded := by
  have same : admitted (seen ++ [node]) excluded = admitted seen excluded := by
    simp [admitted, skipped]
  constructor
  · exact typedPaths_count holds.typedPaths node
  · rw [same, nodes_count, holds.nodes]
  · rw [same, listed_count, holds.listed]
  · rw [same, untyped_count, holds.untyped]

theorem Holds.keep {scan : IndexScan} {seen : List SchemaNode} {excluded : String → Bool}
    (holds : scan.Holds seen excluded) {node : SchemaNode}
    (free : node.simplePath.meets excluded = false) :
    ((scan.count node).keep node).Holds (seen ++ [node]) excluded := by
  have longer : admitted (seen ++ [node]) excluded = admitted seen excluded ++ [node] := by
    simp [admitted, free]
  constructor
  · rw [typedPaths_keep]
    exact typedPaths_count holds.typedPaths node
  · rw [longer]
    cases typed : node.typed <;> simp [IndexScan.keep, typed, holds.nodes]
  · rw [longer, numberedWhere_concat]
    cases typed : node.typed <;>
      simp [IndexScan.keep, typed, holds.nodes, holds.listed, ofNumbered_concat]
  · rw [longer, numberedWhere_concat]
    cases typed : node.typed <;>
      simp [IndexScan.keep, typed, holds.nodes, holds.untyped, ofNumbered_concat]

theorem Holds.visit {scan : IndexScan} {seen : List SchemaNode} {excluded : String → Bool}
    (holds : scan.Holds seen excluded) (node : SchemaNode) :
    (scan.visit excluded node).Holds (seen ++ [node]) excluded := by
  unfold IndexScan.visit
  split
  · rename_i skipped
    exact holds.skip skipped
  · rename_i free
    exact holds.keep (by simpa using free)

theorem holds_ofNodes (nodes : List SchemaNode) (excluded : String → Bool) :
    (ofNodes nodes excluded).Holds nodes excluded := by
  induction nodes using List.reverseRecOn with
  | nil => exact ⟨rfl, rfl, rfl, rfl⟩
  | append_singleton front node induction =>
    have step : ofNodes (front ++ [node]) excluded =
        (ofNodes front excluded).visit excluded node := by
      rw [ofNodes, List.foldl_append]
      rfl
    rw [step]
    exact induction.visit node

theorem finish_ofNodes (nodes : List SchemaNode) (excluded : String → Bool) :
    (ofNodes nodes excluded).finish = PathIndex.build nodes excluded := by
  have holds := holds_ofNodes nodes excluded
  rw [finish, holds.typedPaths, holds.nodes, holds.listed, holds.untyped]
  rfl

end IndexScan

/-! ## Two exclusions -/

theorem SimplePath.meets_or (path : SimplePath) (excluded others : String → Bool) :
    path.meets (fun segment => excluded segment || others segment) =
      (path.meets excluded || path.meets others) := by
  rw [Bool.eq_iff_iff]
  simp [SimplePath.meets, and_or_left, exists_or]

namespace PathLookup

theorem admitted_eq_filter (nodes : List SchemaNode) (excluded : String → Bool) :
    admitted nodes excluded = nodes.filter fun node =>
      ∀ segment ∈ node.simplePath.segments, excluded segment = false := by
  apply List.filter_congr
  intro node _
  simp [SimplePath.meets]

theorem admitted_nothing (nodes : List SchemaNode) : admitted nodes (fun _ => false) = nodes := by
  simp [admitted, SimplePath.meets]

theorem admitted_or (nodes : List SchemaNode) (excluded others : String → Bool) :
    admitted nodes (fun segment => excluded segment || others segment) =
      (admitted nodes excluded).filter fun node => ! node.simplePath.meets others := by
  rw [admitted, admitted, List.filter_filter]
  apply List.filter_congr
  intro node _
  simp [SimplePath.meets_or, Bool.and_comm]

theorem typedOf_filter (nodes : List SchemaNode) (keep : SchemaNode → Bool) :
    typedOf (nodes.filter keep) = (typedOf nodes).filter keep := by
  rw [typedOf, typedOf, List.filter_filter, List.filter_filter]
  simp only [Bool.and_comm]

end PathLookup

namespace PathIndex

theorem schemas_build_of_excluded (nodes : List SchemaNode) {excluded : String → Bool}
    {query : List String} (meets : ∃ segment ∈ query, excluded segment = true) :
    (build nodes excluded).schemas query = [] := by
  rcases meets with ⟨segment, asked, isExcluded⟩
  rw [List.eq_nil_iff_forall_not_mem]
  intro node found
  have member := (schemas_build_perm nodes excluded query).mem_iff.mp found
  have means : Means nodes excluded query node := of_decide_eq_true (List.mem_filter.mp member).2
  have ends : query <:+ node.simplePath.segments := by
    rcases means.reached with equal | ends
    · exact equal ▸ List.suffix_refl query
    · exact ends.2
  have free := means.admitted segment (ends.subset asked)
  rw [isExcluded] at free
  cases free

/-- An index lists the distinct paths of the typed nodes that avoid the excluded segments, in the
order of their discovery. To exclude more drops the paths that meet it and leaves the others where
they are. A query finds what it finds among the nodes that remain, so one with an excluded segment
finds nothing. The number of paths before exclusion is always the same. -/
theorem build_excluding (nodes : List SchemaNode) (excluded others : String → Bool) :
    let index := build nodes excluded
    let spared := nodes.filter fun node =>
      ∀ segment ∈ node.simplePath.segments, excluded segment = false
    (IndexScan.ofNodes nodes excluded).finish = index ∧
    index.paths = distinct ((spared.filter (·.typed)).map (·.simplePath)) ∧
    (build nodes fun segment => excluded segment || others segment).paths =
      index.paths.filter (fun path => ! path.meets others) ∧
    (∀ query, index.schemas query = (build spared fun _ => false).schemas query) ∧
    (∀ query, (∃ segment ∈ query, excluded segment = true) → index.schemas query = []) ∧
    index.unfilteredCount = (build nodes others).unfilteredCount := by
  intro index spared
  have remaining : admitted nodes excluded = spared := admitted_eq_filter nodes excluded
  have listed : index.paths = pathsOf (typedOf spared) := by
    rw [← remaining]
    exact paths_build nodes excluded
  refine ⟨IndexScan.finish_ofNodes nodes excluded, listed, ?_, ?_,
    fun query => schemas_build_of_excluded nodes, rfl⟩
  · rw [paths_build, admitted_or, typedOf_filter, remaining, listed]
    exact pathsOf_filter (typedOf spared) fun path => ! path.meets others
  · intro query
    rw [schemas_build, schemas_build, admitted_nothing, remaining]

def layerNodes : List SchemaNode :=
  [["mark"], ["layer"], ["layer", "mark"]].map fun segments => {
    types := [.string]
    enumeration := none
    simplePath := ⟨segments⟩
    fullPath := segments
    pointer := ""
    typed := true }

theorem build_excluding_layers :
    let index := build layerNodes (· == "layer")
    index.paths = [⟨["mark"]⟩] ∧ (∃ segment ∈ ["layer", "mark"], (segment == "layer") = true) ∧
      index.schemas ["layer", "mark"] = [] := by
  intro index
  have filtered := build_excluding layerNodes (· == "layer") fun _ => false
  have asked : ∃ segment ∈ ["layer", "mark"], (segment == "layer") = true := by decide
  refine ⟨?_, asked, filtered.2.2.2.2.1 ["layer", "mark"] asked⟩
  rw [filtered.2.1]
  decide

end PathIndex

end ChartDialogue
