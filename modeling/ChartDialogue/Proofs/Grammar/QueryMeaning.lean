import ChartDialogue.Proofs.Grammar.PathLookup
import Mathlib.Data.List.Perm.Basic

/-! # What a query means

A query means nodes, and nodes alone: a node is found exactly when its path is the query, or ends
with it while no path is the query, and when it is neither excluded nor hidden by a typed node. The
order of what is found is the order of discovery, after typed nodes have been put before untyped
ones and the nodes of one path together.
-/

namespace ChartDialogue

theorem distinct_filter {α : Type} [DecidableEq α] (keep : α → Bool) (list : List α) :
    distinct (list.filter keep) = (distinct list).filter keep := by
  induction list with
  | nil => rfl
  | cons first rest induction =>
    by_cases kept : keep first = true
    · rw [List.filter_cons_of_pos kept, distinct, distinct, List.filter_cons_of_pos kept, induction]
      simp only [List.filter_filter, Bool.and_comm]
    · rw [List.filter_cons_of_neg kept, distinct, List.filter_cons_of_neg kept, induction,
        List.filter_filter]
      apply List.filter_congr
      intro value _
      by_cases equal : value = first
      · simp [equal, kept]
      · simp [equal]

namespace PathLookup

def IsExact (nodes : List SchemaNode) (excluded : String → Bool) (query : List String) : Prop :=
  ∃ node ∈ nodes, node.simplePath.meets excluded = false ∧ node.simplePath.segments = query

/-- An untyped node is hidden by a typed one with the same path. -/
def IsVisible (nodes : List SchemaNode) (node : SchemaNode) : Prop :=
  node.typed = true ∨
    ∀ other ∈ nodes, other.typed = true → other.simplePath ≠ node.simplePath

structure Means (nodes : List SchemaNode) (excluded : String → Bool) (query : List String)
    (node : SchemaNode) : Prop where
  asked : query ≠ []
  admitted : ∀ segment ∈ node.simplePath.segments, excluded segment = false
  visible : IsVisible nodes node
  reached : node.simplePath.segments = query ∨
    (¬ IsExact nodes excluded query ∧ query <:+ node.simplePath.segments)

instance (nodes : List SchemaNode) (excluded : String → Bool) (query : List String) :
    Decidable (IsExact nodes excluded query) :=
  inferInstanceAs (Decidable (∃ node ∈ nodes, _ ∧ _))

instance (nodes : List SchemaNode) : DecidablePred (IsVisible nodes) := fun node =>
  inferInstanceAs (Decidable (node.typed = true ∨ ∀ other ∈ nodes, _ → _))

instance (nodes : List SchemaNode) (excluded : String → Bool) (query : List String) :
    DecidablePred (Means nodes excluded query) := fun node =>
  decidable_of_iff
    (query ≠ [] ∧ (∀ segment ∈ node.simplePath.segments, excluded segment = false) ∧
      IsVisible nodes node ∧ (node.simplePath.segments = query ∨
        (¬ IsExact nodes excluded query ∧ query <:+ node.simplePath.segments)))
    ⟨fun ⟨asked, admitted, visible, reached⟩ => ⟨asked, admitted, visible, reached⟩,
      fun ⟨asked, admitted, visible, reached⟩ => ⟨asked, admitted, visible, reached⟩⟩

/-- The nodes of one path together, the paths in the order of their discovery. -/
def byPath (nodes : List SchemaNode) : List SchemaNode := (pathsOf nodes).flatMap (withPath nodes)

/-! ## Nodes by path -/

theorem flatMap_withPath_perm (nodes : List SchemaNode) {paths : List SimplePath}
    (nodup : paths.Nodup) :
    (paths.flatMap (withPath nodes)).Perm
      (nodes.filter fun node => node.simplePath ∈ paths) := by
  induction paths with
  | nil => simp
  | cons path paths induction =>
    rcases List.nodup_cons.mp nodup with ⟨absent, nodup⟩
    have here : withPath nodes path =
        (nodes.filter fun node => node.simplePath ∈ path :: paths).filter
          fun node => node.simplePath = path := by
      rw [withPath, List.filter_filter]
      apply List.filter_congr
      intro node _
      by_cases equal : node.simplePath = path <;> simp [equal]
    have elsewhere : (nodes.filter fun node => node.simplePath ∈ paths) =
        (nodes.filter fun node => node.simplePath ∈ path :: paths).filter
          fun node => ! decide (node.simplePath = path) := by
      rw [List.filter_filter]
      apply List.filter_congr
      intro node _
      by_cases equal : node.simplePath = path
      · simp [equal, absent]
      · simp [equal]
    rw [List.flatMap_cons]
    apply ((induction nodup).append_left _).trans
    rw [here, elsewhere]
    apply List.filter_append_perm

theorem byPath_perm (nodes : List SchemaNode) : (byPath nodes).Perm nodes := by
  have all : nodes.filter (fun node => node.simplePath ∈ pathsOf nodes) = nodes := by
    rw [List.filter_eq_self]
    intro node member
    rw [decide_eq_true_eq, mem_pathsOf]
    exact ⟨node, member, rfl⟩
  have grouped := flatMap_withPath_perm nodes (nodup_distinct (nodes.map (·.simplePath)))
  rwa [← pathsOf, all] at grouped

theorem pathsOf_filter (nodes : List SchemaNode) (keep : SimplePath → Bool) :
    pathsOf (nodes.filter fun node => keep node.simplePath) = (pathsOf nodes).filter keep := by
  rw [pathsOf, pathsOf, ← distinct_filter, List.filter_map]
  rfl

theorem byPath_filter (nodes : List SchemaNode) (keep : SimplePath → Bool) :
    byPath (nodes.filter fun node => keep node.simplePath) =
      ((pathsOf nodes).filter keep).flatMap (withPath nodes) := by
  rw [byPath, pathsOf_filter]
  apply List.flatMap_congr
  intro path member
  have kept : keep path = true := (List.mem_filter.mp member).2
  rw [withPath, withPath, List.filter_filter]
  apply List.filter_congr
  intro node _
  by_cases equal : node.simplePath = path
  · simp [equal, kept]
  · simp [equal]

/-! ## Visible nodes -/

theorem isVisible_iff {nodes : List SchemaNode} {node : SchemaNode} :
    IsVisible nodes node ↔
      (node.typed = false → node.simplePath ∉ pathsOf (typedOf nodes)) := by
  cases typed : node.typed <;> simp [IsVisible, typed, mem_pathsOf, typedOf]

/-- What is excluded hides nothing that is admitted. -/
theorem isVisible_admitted_iff {nodes : List SchemaNode} {excluded : String → Bool}
    {node : SchemaNode} (free : node.simplePath.meets excluded = false) :
    IsVisible (admitted nodes excluded) node ↔ IsVisible nodes node := by
  unfold IsVisible
  apply or_congr Iff.rfl
  constructor
  · intro unhidden other member typed equal
    -- Exclusion looks at the path alone, so the typed node of the same path is admitted as well.
    have otherFree : other.simplePath.meets excluded = false := equal ▸ free
    exact unhidden other (List.mem_filter.mpr ⟨member, by simp [otherFree]⟩) typed equal
  · intro unhidden other member
    exact unhidden other (mem_of_mem_admitted member)

theorem shown_eq (nodes : List SchemaNode) (path : SimplePath) :
    shown nodes path =
      nodes.filter fun node =>
        decide (IsVisible nodes node) && decide (node.simplePath = path) := by
  by_cases typed : path ∈ pathsOf (typedOf nodes)
  · rw [shown, if_pos typed, withPath, typedOf, List.filter_filter]
    apply List.filter_congr
    intro node _
    by_cases equal : node.simplePath = path
    · cases mark : node.typed <;> simp [equal, isVisible_iff, typed, mark]
    · simp [equal]
  · rw [shown, if_neg typed, withPath, untypedOf, List.filter_filter]
    apply List.filter_congr
    intro node member
    by_cases equal : node.simplePath = path
    · have untyped : node.typed = false := by
        rw [← Bool.not_eq_true]
        intro mark
        exact typed (mem_pathsOf.mpr ⟨node, List.mem_filter.mpr ⟨member, mark⟩, equal⟩)
      simp [equal, isVisible_iff, typed, untyped]
    · simp [equal]

theorem flatMap_shown (nodes : List SchemaNode) (keep : SimplePath → Bool) :
    ((pathsOf (typedOf nodes) ++ untypedOnlyPaths nodes).filter keep).flatMap (shown nodes) =
      byPath ((typedOf nodes).filter fun node => keep node.simplePath) ++
        byPath ((untypedOf nodes).filter fun node =>
          decide (node.simplePath ∉ pathsOf (typedOf nodes)) && keep node.simplePath) := by
  rw [List.filter_append, List.flatMap_append, byPath_filter (typedOf nodes) keep,
    byPath_filter (untypedOf nodes) fun path =>
      decide (path ∉ pathsOf (typedOf nodes)) && keep path]
  congr 1
  · apply List.flatMap_congr
    intro path member
    rw [shown, if_pos (List.mem_filter.mp member).1]
  · rw [untypedOnlyPaths, List.filter_filter]
    simp only [Bool.and_comm (keep _)]
    apply List.flatMap_congr
    intro path member
    have passes := (List.mem_filter.mp member).2
    rw [Bool.and_eq_true, decide_eq_true_eq] at passes
    have untyped : path ∉ pathsOf (typedOf nodes) := passes.1
    rw [shown, if_neg untyped]

/-! ## Queries -/

section Queries

variable {nodes : List SchemaNode} {excluded : String → Bool} {query : List String}
  {node : SchemaNode}

theorem meets_eq_false_iff {path : SimplePath} : path.meets excluded = false ↔
    ∀ segment ∈ path.segments, excluded segment = false := by
  simp [SimplePath.meets]

theorem mem_pathsOf_admitted_iff :
    ⟨query⟩ ∈ pathsOf (admitted nodes excluded) ↔ IsExact nodes excluded query := by
  simp only [mem_pathsOf, admitted, List.mem_filter, IsExact]
  constructor
  · rintro ⟨node, ⟨member, free⟩, equal⟩
    exact ⟨node, member, by simpa using free, by rw [equal]⟩
  · rintro ⟨node, member, free, equal⟩
    exact ⟨node, ⟨member, by simp [free]⟩, congrArg SimplePath.mk equal⟩

theorem means_iff_of_exact (asked : query ≠ []) (exact : IsExact nodes excluded query) :
    Means nodes excluded query node ↔
      node.simplePath.meets excluded = false ∧ IsVisible nodes node ∧
        node.simplePath = ⟨query⟩ := by
  rw [meets_eq_false_iff]
  constructor
  · rintro ⟨_, free, visible, equal | ⟨inexact, _⟩⟩
    · exact ⟨free, visible, congrArg SimplePath.mk equal⟩
    · exact absurd exact inexact
  · rintro ⟨free, visible, equal⟩
    exact ⟨asked, free, visible, .inl (congrArg SimplePath.segments equal)⟩

theorem means_iff_of_inexact (asked : query ≠ []) (inexact : ¬ IsExact nodes excluded query) :
    Means nodes excluded query node ↔
      node.simplePath.meets excluded = false ∧ IsVisible nodes node ∧
        node.simplePath.endsWith query = true := by
  rw [meets_eq_false_iff, SimplePath.endsWith, List.isSuffixOf_iff_suffix]
  constructor
  · rintro ⟨_, free, visible, equal | ⟨_, ends⟩⟩
    · exact ⟨free, visible, equal ▸ List.suffix_refl query⟩
    · exact ⟨free, visible, ends⟩
  · rintro ⟨free, visible, ends⟩
    exact ⟨asked, free, visible, .inr ⟨inexact, ends⟩⟩

theorem lookup_of_exact (asked : query ≠ []) (exact : IsExact nodes excluded query) :
    lookup (admitted nodes excluded) query = nodes.filter (Means nodes excluded query) := by
  rw [lookup, if_neg asked, if_pos (mem_pathsOf_admitted_iff.mpr exact), shown_eq, admitted,
    List.filter_filter, ← admitted]
  apply List.filter_congr
  intro node _
  rw [Bool.eq_iff_iff]
  by_cases free : node.simplePath.meets excluded = false
  · simp [means_iff_of_exact asked exact, free, isVisible_admitted_iff free]
  · simp [means_iff_of_exact asked exact, free]

theorem lookup_of_inexact (asked : query ≠ []) (inexact : ¬ IsExact nodes excluded query) :
    lookup (admitted nodes excluded) query =
      byPath (typedOf (nodes.filter (Means nodes excluded query))) ++
        byPath (untypedOf (nodes.filter (Means nodes excluded query))) := by
  rw [lookup, if_neg asked, if_neg (mem_pathsOf_admitted_iff.not.mpr inexact), flatMap_shown]
  congr 2
  · simp only [typedOf, admitted, List.filter_filter]
    apply List.filter_congr
    intro node _
    rw [Bool.eq_iff_iff]
    cases typed : node.typed <;>
      simp [means_iff_of_inexact asked inexact, IsVisible, typed, and_comm]
  · simp only [untypedOf, admitted, List.filter_filter]
    apply List.filter_congr
    intro node _
    rw [Bool.eq_iff_iff]
    by_cases free : node.simplePath.meets excluded = false
    · have visible : IsVisible (admitted nodes excluded) node ↔ IsVisible nodes node :=
        isVisible_admitted_iff free
      rw [isVisible_iff] at visible
      cases typed : node.typed <;>
        simp_all [means_iff_of_inexact asked inexact, admitted]
    · simp [means_iff_of_inexact asked inexact, free]

end Queries

theorem arranged_perm (nodes : List SchemaNode) :
    (byPath (typedOf nodes) ++ byPath (untypedOf nodes)).Perm nodes := by
  apply ((byPath_perm (typedOf nodes)).append (byPath_perm (untypedOf nodes))).trans
  have untyped : untypedOf nodes = nodes.filter fun node => ! node.typed := by
    simp [untypedOf]
  rw [typedOf, untyped]
  apply List.filter_append_perm

end PathLookup

namespace PathIndex

open PathLookup

theorem schemas_build_arranged (nodes : List SchemaNode) (excluded : String → Bool)
    (query : List String) :
    let meant := nodes.filter (Means nodes excluded query)
    (build nodes excluded).schemas query =
      if IsExact nodes excluded query then meant
      else byPath (typedOf meant) ++ byPath (untypedOf meant) := by
  intro meant
  rw [schemas_build]
  by_cases asked : query = []
  · have nothing : meant = [] := by
      rw [List.filter_eq_nil_iff]
      intro node _ means
      exact (of_decide_eq_true means).asked asked
    rw [nothing, lookup, if_pos asked]
    split <;> rfl
  · split
    · rename_i exact
      exact lookup_of_exact asked exact
    · rename_i inexact
      exact lookup_of_inexact asked inexact

theorem schemas_build_perm (nodes : List SchemaNode) (excluded : String → Bool)
    (query : List String) :
    ((build nodes excluded).schemas query).Perm
      (nodes.filter (Means nodes excluded query)) := by
  have arranged := schemas_build_arranged nodes excluded query
  dsimp only at arranged
  rw [arranged]
  split
  · exact .refl _
  · exact arranged_perm _

/-- A query finds the nodes it means, each as often as it occurs, and no others. Nodes whose path is
the query come in the order of their discovery; nodes whose path ends with it come by path, those
with types first. -/
theorem schemas_build_means (nodes : List SchemaNode) (excluded : String → Bool)
    (query : List String) :
    let found := (build nodes excluded).schemas query
    let meant := nodes.filter (Means nodes excluded query)
    (∀ node, found.count node =
      if Means nodes excluded query node then nodes.count node else 0) ∧
    found =
      if IsExact nodes excluded query then meant
      else byPath (typedOf meant) ++ byPath (untypedOf meant) := by
  intro found meant
  have arranged : found = _ := schemas_build_arranged nodes excluded query
  refine ⟨fun node => ?_, arranged⟩
  have permuted : found.Perm meant := by
    rw [arranged]
    split
    · exact .refl _
    · exact arranged_perm meant
  rw [permuted.count_eq]
  split
  · rename_i means
    exact List.count_filter (decide_eq_true means)
  · rename_i other
    rw [List.count_eq_zero]
    intro member
    exact other (of_decide_eq_true (List.mem_filter.mp member).2)

end PathIndex

end ChartDialogue
