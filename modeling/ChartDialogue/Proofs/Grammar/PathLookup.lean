import ChartDialogue.Grammar.PathIndex
import Mathlib.Data.List.Basic
import Mathlib.Data.List.Induction

/-! # What a path leads to

The index groups positions of nodes, and a lookup follows them. Said of the nodes themselves: a
path shows its typed nodes, or all of its nodes if none is typed; a query shows what its own path
shows, or else what every path that ends with it shows, those with typed nodes first.
-/

namespace ChartDialogue

theorem distinct_concat {α : Type} [DecidableEq α] (value : α) : (list : List α) →
    distinct (list ++ [value]) =
      if value ∈ list then distinct list else distinct list ++ [value]
  | [] => rfl
  | first :: rest => by
    rw [List.cons_append, distinct, distinct, distinct_concat value rest]
    by_cases inside : value ∈ rest
    · simp [inside]
    · by_cases equal : value = first
      · subst equal
        simp [inside]
      · simp [inside, equal]

/-! ## Groups -/

namespace PathGroup

def ofPath (numbered : List (SchemaNode × Nat)) (path : SimplePath) : PathGroup :=
  ⟨path, (numbered.filter fun entry => entry.1.simplePath = path).map (·.2)⟩

theorem ofPath_concat (numbered : List (SchemaNode × Nat)) (entry : SchemaNode × Nat)
    (path : SimplePath) :
    ofPath (numbered ++ [entry]) path =
      if entry.1.simplePath = path then
        ⟨path, (ofPath numbered path).positions ++ [entry.2]⟩
      else ofPath numbered path := by
  unfold ofPath
  by_cases equal : entry.1.simplePath = path <;> simp [equal]

theorem add_of_not_mem {path : SimplePath} {position : Nat} : {groups : List PathGroup} →
    path ∉ groups.map (·.path) → add path position groups = groups ++ [⟨path, [position]⟩]
  | [], _ => rfl
  | group :: rest, absent => by
    have different : group.path ≠ path := fun equal => absent (by simp [equal])
    have absentBelow : path ∉ rest.map (·.path) := fun member => absent (by simp_all)
    rw [add, if_neg different, add_of_not_mem absentBelow, List.cons_append]

theorem add_of_mem {path : SimplePath} {position : Nat} (numbered : List (SchemaNode × Nat)) :
    {paths : List SimplePath} → paths.Nodup → path ∈ paths →
      add path position (paths.map (ofPath numbered)) =
        paths.map fun other =>
          if path = other then ⟨other, (ofPath numbered other).positions ++ [position]⟩
          else ofPath numbered other
  | first :: rest, nodup, member => by
    rcases List.nodup_cons.mp nodup with ⟨firstAbsent, restNodup⟩
    rw [List.map_cons, List.map_cons, add]
    by_cases equal : path = first
    · subst equal
      have unchanged : ∀ other ∈ rest, path ≠ other := fun other inside same =>
        firstAbsent (same ▸ inside)
      have samePath : (ofPath numbered path).path = path := rfl
      rw [if_pos samePath, if_pos rfl]
      congr 1
      exact List.map_congr_left fun other inside => (if_neg (unchanged other inside)).symm
    · have differs : (ofPath numbered first).path ≠ path := fun same => equal same.symm
      have inside : path ∈ rest := by simpa [equal] using member
      rw [if_neg differs, if_neg equal, add_of_mem numbered restNodup inside]

theorem ofNumbered_eq (numbered : List (SchemaNode × Nat)) :
    ofNumbered numbered =
      (distinct (numbered.map (·.1.simplePath))).map (ofPath numbered) := by
  induction numbered using List.reverseRecOn with
  | nil => rfl
  | append_singleton front entry induction =>
    have step : ofNumbered (front ++ [entry]) =
        add entry.1.simplePath entry.2 (ofNumbered front) := by
      rw [ofNumbered, List.foldl_append]
      rfl
    rw [step, induction, List.map_append, List.map_singleton, distinct_concat]
    by_cases known : entry.1.simplePath ∈ front.map (·.1.simplePath)
    · rw [if_pos known, add_of_mem front (nodup_distinct _) (mem_distinct.mpr known)]
      exact List.map_congr_left fun path _ => (ofPath_concat front entry path).symm
    · have absent : entry.1.simplePath ∉
          ((distinct (front.map (·.1.simplePath))).map (ofPath front)).map (·.path) := by
        simpa [ofPath] using known
      have alone : front.filter (fun other => other.1.simplePath = entry.1.simplePath) = [] := by
        simpa using known
      rw [if_neg known, add_of_not_mem absent, List.map_append]
      congr 1
      · apply List.map_congr_left
        intro path member
        have differs : entry.1.simplePath ≠ path := fun same =>
          known (same ▸ mem_distinct.mp member)
        rw [ofPath_concat, if_neg differs]
      · rw [List.map_singleton, ofPath_concat, if_pos rfl, ofPath, alone]
        rfl

theorem positions?_map_ofPath (numbered : List (SchemaNode × Nat)) (path : SimplePath) :
    (paths : List SimplePath) →
      positions? (paths.map (ofPath numbered)) path =
        if path ∈ paths then some (ofPath numbered path).positions else none
  | [] => rfl
  | first :: rest => by
    have induction := positions?_map_ofPath numbered path rest
    unfold positions? at induction ⊢
    by_cases equal : first = path
    · subst equal
      simp [ofPath]
    · have differs : ¬ (ofPath numbered first).path = path := equal
      simp only [List.map_cons, List.find?_cons, differs, decide_false, induction]
      simp [Ne.symm equal]

end PathGroup

/-! ## Lookup over nodes -/

namespace PathLookup

def pathsOf (nodes : List SchemaNode) : List SimplePath := distinct (nodes.map (·.simplePath))

def typedOf (nodes : List SchemaNode) : List SchemaNode := nodes.filter (·.typed)
def untypedOf (nodes : List SchemaNode) : List SchemaNode := nodes.filter fun node => ¬ node.typed

def withPath (nodes : List SchemaNode) (path : SimplePath) : List SchemaNode :=
  nodes.filter fun node => node.simplePath = path

def untypedOnlyPaths (nodes : List SchemaNode) : List SimplePath :=
  (pathsOf (untypedOf nodes)).filter fun path => path ∉ pathsOf (typedOf nodes)

/-- What a path shows: its typed nodes, or its untyped ones if there are no others. -/
def shown (nodes : List SchemaNode) (path : SimplePath) : List SchemaNode :=
  if path ∈ pathsOf (typedOf nodes) then withPath (typedOf nodes) path
  else withPath (untypedOf nodes) path

def lookup (nodes : List SchemaNode) (query : List String) : List SchemaNode :=
  if query = [] then []
  else if ⟨query⟩ ∈ pathsOf nodes then shown nodes ⟨query⟩
  else ((pathsOf (typedOf nodes) ++ untypedOnlyPaths nodes).filter (·.endsWith query)).flatMap
    (shown nodes)

def admitted (nodes : List SchemaNode) (excluded : String → Bool) : List SchemaNode :=
  nodes.filter fun node => ¬ node.simplePath.meets excluded

/-! ### Numbered nodes -/

def numberedWhere (nodes : List SchemaNode) (keep : SchemaNode → Bool) : List (SchemaNode × Nat) :=
  nodes.zipIdx.filter fun entry => keep entry.1

theorem map_fst_numberedWhere (nodes : List SchemaNode) (keep : SchemaNode → Bool) :
    (numberedWhere nodes keep).map (·.1) = nodes.filter keep := by
  have commute : (numberedWhere nodes keep).map (·.1) = (nodes.zipIdx.map (·.1)).filter keep := by
    rw [List.filter_map]
    rfl
  rw [commute, List.zipIdx_map_fst]

theorem map_path_numberedWhere (nodes : List SchemaNode) (keep : SchemaNode → Bool) :
    (numberedWhere nodes keep).map (·.1.simplePath) = (nodes.filter keep).map (·.simplePath) := by
  rw [← map_fst_numberedWhere, List.map_map]
  rfl

theorem filterMap_positions (nodes : List SchemaNode) (keep : SchemaNode → Bool)
    (path : SimplePath) :
    (PathGroup.ofPath (numberedWhere nodes keep) path).positions.filterMap
        (fun position => nodes.toArray[position]?) =
      withPath (nodes.filter keep) path := by
  have points : ∀ entry ∈ numberedWhere nodes keep, nodes.toArray[entry.2]? = some entry.1 := by
    intro entry member
    have numbered := (List.mem_filter.mp member).1
    simpa using List.mem_zipIdx_iff_getElem?.mp numbered
  have followed : (PathGroup.ofPath (numberedWhere nodes keep) path).positions.filterMap
      (fun position => nodes.toArray[position]?) =
      ((numberedWhere nodes keep).filter fun entry => entry.1.simplePath = path).map (·.1) := by
    rw [PathGroup.ofPath, List.filterMap_map, ← List.filterMap_eq_map]
    apply List.filterMap_congr
    intro entry member
    exact points entry (List.mem_filter.mp member).1
  rw [followed, withPath, ← map_fst_numberedWhere nodes keep, List.filter_map]
  rfl

theorem mem_pathsOf {nodes : List SchemaNode} {path : SimplePath} :
    path ∈ pathsOf nodes ↔ ∃ node ∈ nodes, node.simplePath = path := by
  simp [pathsOf]

theorem mem_untypedOnlyPaths {nodes : List SchemaNode} {path : SimplePath} :
    path ∈ untypedOnlyPaths nodes ↔
      path ∈ pathsOf (untypedOf nodes) ∧ path ∉ pathsOf (typedOf nodes) := by
  simp [untypedOnlyPaths]

theorem mem_pathsOf_iff {nodes : List SchemaNode} {path : SimplePath} :
    path ∈ pathsOf nodes ↔
      path ∈ pathsOf (typedOf nodes) ∨ path ∈ untypedOnlyPaths nodes := by
  rw [mem_untypedOnlyPaths]
  by_cases known : path ∈ pathsOf (typedOf nodes)
  · rcases mem_pathsOf.mp known with ⟨node, member, equal⟩
    have inside : path ∈ pathsOf nodes :=
      mem_pathsOf.mpr ⟨node, (List.mem_filter.mp member).1, equal⟩
    simp [known, inside]
  · have split : path ∈ pathsOf nodes ↔ path ∈ pathsOf (untypedOf nodes) := by
      simp only [mem_pathsOf, typedOf, untypedOf, List.mem_filter] at known ⊢
      grind
    simp [known, split]

end PathLookup

/-! ## The index -/

namespace PathIndex

open PathLookup

variable (nodes : List SchemaNode) (excluded : String → Bool)

theorem listed_build : (build nodes excluded).listed =
    (pathsOf (typedOf (admitted nodes excluded))).map
      (PathGroup.ofPath (numberedWhere (admitted nodes excluded) (·.typed))) := by
  have unfolded : (build nodes excluded).listed =
      PathGroup.ofNumbered (numberedWhere (admitted nodes excluded) (·.typed)) := rfl
  rw [unfolded, PathGroup.ofNumbered_eq, map_path_numberedWhere]
  rfl

theorem paths_build :
    (build nodes excluded).paths = pathsOf (typedOf (admitted nodes excluded)) := by
  rw [paths, listed_build, List.map_map]
  exact List.map_id _

theorem untypedOnly_build : (build nodes excluded).untypedOnly =
    (untypedOnlyPaths (admitted nodes excluded)).map
      (PathGroup.ofPath (numberedWhere (admitted nodes excluded) fun node => ¬ node.typed)) := by
  have unfolded : (build nodes excluded).untypedOnly =
      (PathGroup.ofNumbered
        (numberedWhere (admitted nodes excluded) fun node => ¬ node.typed)).filter
        fun group => group.path ∉ (build nodes excluded).paths := rfl
  rw [unfolded, PathGroup.ofNumbered_eq, map_path_numberedWhere, paths_build, List.filter_map]
  rfl

theorem nodesAt_listed (path : SimplePath) : (build nodes excluded).nodesAt
    (PathGroup.ofPath (numberedWhere (admitted nodes excluded) (·.typed)) path).positions =
      withPath (typedOf (admitted nodes excluded)) path :=
  filterMap_positions _ _ path

theorem nodesAt_untypedOnly (path : SimplePath) : (build nodes excluded).nodesAt
    (PathGroup.ofPath
      (numberedWhere (admitted nodes excluded) fun node => ¬ node.typed) path).positions =
      withPath (untypedOf (admitted nodes excluded)) path :=
  filterMap_positions _ _ path

theorem positions?_build (path : SimplePath) : (build nodes excluded).positions? path =
    if path ∈ pathsOf (typedOf (admitted nodes excluded)) then
      some (PathGroup.ofPath (numberedWhere (admitted nodes excluded) (·.typed)) path).positions
    else if path ∈ untypedOnlyPaths (admitted nodes excluded) then
      some (PathGroup.ofPath
        (numberedWhere (admitted nodes excluded) fun node => ¬ node.typed) path).positions
    else none := by
  have either : ∀ front back : List PathGroup, PathGroup.positions? (front ++ back) path =
      (PathGroup.positions? front path).or (PathGroup.positions? back path) := by
    intro front back
    simp [PathGroup.positions?, List.find?_append, Option.map_or]
  rw [positions?, either, listed_build, untypedOnly_build, PathGroup.positions?_map_ofPath,
    PathGroup.positions?_map_ofPath]
  split <;> rfl

theorem positions?_build_isSome (path : SimplePath) :
    ((build nodes excluded).positions? path).isSome = true ↔
      path ∈ pathsOf (admitted nodes excluded) := by
  have members := @mem_pathsOf_iff (admitted nodes excluded) path
  rw [positions?_build]
  split
  · rename_i typed
    simp [members, typed]
  · rename_i untyped
    split <;> simp_all

theorem nodesAt_of_positions? {path : SimplePath} {positions : List Nat}
    (found : (build nodes excluded).positions? path = some positions) :
    (build nodes excluded).nodesAt positions = shown (admitted nodes excluded) path := by
  rw [positions?_build] at found
  unfold shown
  split at found
  · rename_i typed
    cases found
    rw [if_pos typed, nodesAt_listed]
  · rename_i untyped
    rw [if_neg untyped]
    split at found
    · cases found
      exact nodesAt_untypedOnly nodes excluded path
    · cases found

theorem flatMap_groups (keep : SimplePath → Bool) :
    (((build nodes excluded).listed ++ (build nodes excluded).untypedOnly).filter
        fun group => keep group.path).flatMap
        (fun group => (build nodes excluded).nodesAt group.positions) =
      ((pathsOf (typedOf (admitted nodes excluded)) ++
        untypedOnlyPaths (admitted nodes excluded)).filter keep).flatMap
        (shown (admitted nodes excluded)) := by
  rw [List.filter_append, List.filter_append, List.flatMap_append, List.flatMap_append,
    listed_build, untypedOnly_build, List.filter_map, List.filter_map, List.flatMap_map,
    List.flatMap_map]
  congr 1
  · apply List.flatMap_congr
    intro path member
    rw [nodesAt_listed, shown, if_pos (List.mem_filter.mp member).1]
  · apply List.flatMap_congr
    intro path member
    have untyped := (mem_untypedOnlyPaths.mp (List.mem_filter.mp member).1).2
    rw [nodesAt_untypedOnly, shown, if_neg untyped]

/-- What the index finds for a query is what the query means among the admitted nodes. -/
theorem schemas_build (query : List String) :
    (build nodes excluded).schemas query = lookup (admitted nodes excluded) query := by
  unfold schemas lookup
  by_cases empty : query = []
  · simp [empty]
  · have nonempty : query.isEmpty = false := by simpa using empty
    rw [nonempty, if_neg empty]
    have known := positions?_build_isSome nodes excluded ⟨query⟩
    cases found : (build nodes excluded).positions? ⟨query⟩ with
    | some positions =>
      rw [found] at known
      rw [if_pos (known.mp rfl)]
      exact nodesAt_of_positions? nodes excluded found
    | none =>
      rw [found] at known
      have absent : (⟨query⟩ : SimplePath) ∉ pathsOf (admitted nodes excluded) := fun member =>
        nomatch known.mpr member
      rw [if_neg absent]
      exact flatMap_groups nodes excluded (·.endsWith query)

end PathIndex

/-! ## Typed nodes come first -/

namespace PathLookup

theorem mem_of_mem_admitted {nodes : List SchemaNode} {excluded : String → Bool}
    {node : SchemaNode} (member : node ∈ admitted nodes excluded) : node ∈ nodes :=
  (List.mem_filter.mp member).1

theorem mem_typed_of_mem_shown {nodes : List SchemaNode} {path : SimplePath} {node : SchemaNode}
    (typed : path ∈ pathsOf (typedOf nodes)) (member : node ∈ shown nodes path) :
    node ∈ typedOf nodes := by
  rw [shown, if_pos typed] at member
  exact (List.mem_filter.mp member).1

theorem mem_untyped_of_mem_shown {nodes : List SchemaNode} {path : SimplePath}
    {node : SchemaNode} (untyped : path ∉ pathsOf (typedOf nodes))
    (member : node ∈ shown nodes path) : node ∈ untypedOf nodes := by
  rw [shown, if_neg untyped] at member
  exact (List.mem_filter.mp member).1

theorem lookup_of_typed {nodes : List SchemaNode} {path : SimplePath} (asked : path.segments ≠ [])
    (typed : path ∈ pathsOf (typedOf nodes)) :
    lookup nodes path.segments = withPath (typedOf nodes) path := by
  have known : path ∈ pathsOf nodes := mem_pathsOf_iff.mpr (.inl typed)
  rw [lookup, if_neg asked, if_pos known, shown, if_pos typed]

theorem lookup_eq_append (nodes : List SchemaNode) (query : List String) :
    ∃ front back, lookup nodes query = front ++ back ∧
      (∀ node ∈ front, node ∈ typedOf nodes) ∧ (∀ node ∈ back, node ∈ untypedOf nodes) := by
  unfold lookup
  split
  · exact ⟨[], [], rfl, by simp, by simp⟩
  · split
    · by_cases typed : (⟨query⟩ : SimplePath) ∈ pathsOf (typedOf nodes)
      · exact ⟨_, [], (List.append_nil _).symm,
          fun node member => mem_typed_of_mem_shown typed member, by simp⟩
      · exact ⟨[], _, rfl, by simp, fun node member => mem_untyped_of_mem_shown typed member⟩
    · rw [List.filter_append, List.flatMap_append]
      refine ⟨_, _, rfl, ?_, ?_⟩
      · intro node member
        rcases List.mem_flatMap.mp member with ⟨path, listed, inside⟩
        exact mem_typed_of_mem_shown (List.mem_filter.mp listed).1 inside
      · intro node member
        rcases List.mem_flatMap.mp member with ⟨path, listed, inside⟩
        have untyped := (mem_untypedOnlyPaths.mp (List.mem_filter.mp listed).1).2
        exact mem_untyped_of_mem_shown untyped inside

end PathLookup

/-! ## Listed paths -/

namespace PathIndex

open PathLookup

variable {nodes : List SchemaNode} {excluded : String → Bool} {path : SimplePath}

theorem mem_paths_build_iff :
    path ∈ (build nodes excluded).paths ↔
      path.meets excluded = false ∧ ∃ node ∈ typedOf nodes, node.simplePath = path := by
  rw [paths_build, mem_pathsOf]
  constructor
  · rintro ⟨node, member, rfl⟩
    rcases List.mem_filter.mp member with ⟨inside, typed⟩
    rcases List.mem_filter.mp inside with ⟨found, free⟩
    exact ⟨by simpa using free, node, List.mem_filter.mpr ⟨found, typed⟩, rfl⟩
  · rintro ⟨free, node, member, rfl⟩
    rcases List.mem_filter.mp member with ⟨found, typed⟩
    have inside : node ∈ admitted nodes excluded := List.mem_filter.mpr ⟨found, by simpa using free⟩
    exact ⟨node, List.mem_filter.mpr ⟨inside, typed⟩, rfl⟩

/-- An exclusion drops all typed nodes of a path or none. -/
theorem withPath_typedOf_admitted (free : path.meets excluded = false) :
    withPath (typedOf (admitted nodes excluded)) path = withPath (typedOf nodes) path := by
  simp only [withPath, typedOf, admitted, List.filter_filter]
  apply List.filter_congr
  intro node _
  by_cases here : node.simplePath = path
  · simp [here, free]
  · simp [here]

theorem schemas_of_mem_paths (listed : path ∈ (build nodes excluded).paths)
    (asked : path.segments ≠ []) :
    (build nodes excluded).schemas path.segments = withPath (typedOf nodes) path := by
  have free := (mem_paths_build_iff.mp listed).1
  rw [paths_build] at listed
  rw [schemas_build, lookup_of_typed asked listed, withPath_typedOf_admitted free]

end PathIndex

end ChartDialogue
