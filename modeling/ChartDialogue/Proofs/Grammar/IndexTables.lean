import ChartDialogue.Proofs.Grammar.Exclusion
import ChartDialogue.Proofs.Grammar.LiteralUses

/-! # The tables of an index

Paths and positions can be kept in tables of their own: the listed paths, the paths that only
untyped nodes have, and the positions under each path. The tables are filled in two passes, and
nothing but the passes keeps them in step. They are in step after every run, so a lookup that
follows them meets neither a path without positions nor a position without a node.
-/

namespace ChartDialogue

open PathLookup
open LiteralUse (addNew addNew_distinct)

/-- The nodes of a grammar with paths and positions in separate tables. -/
structure IndexTables where
  nodes : Array SchemaNode
  listed : List SimplePath
  untypedOnly : List SimplePath
  positions : List PathGroup

namespace PathGroup

def put (group : PathGroup) : List PathGroup → List PathGroup
  | [] => [group]
  | other :: rest => if other.path = group.path then group :: rest else other :: put group rest

theorem put_of_not_mem {group : PathGroup} : {groups : List PathGroup} →
    group.path ∉ groups.map (·.path) → put group groups = groups ++ [group]
  | [], _ => rfl
  | other :: rest, absent => by
    have different : other.path ≠ group.path := fun equal => absent (by simp [equal])
    have absentBelow : group.path ∉ rest.map (·.path) := fun member => absent (by simp_all)
    rw [put, if_neg different, put_of_not_mem absentBelow, List.cons_append]

theorem map_path_add (path : SimplePath) (position : Nat) : (groups : List PathGroup) →
    (add path position groups).map (·.path) = addNew path (groups.map (·.path))
  | [] => rfl
  | group :: rest => by
    rw [add]
    by_cases equal : group.path = path
    · simp [equal, addNew]
    · have below := map_path_add path position rest
      rw [if_neg equal, List.map_cons, below]
      by_cases known : path ∈ rest.map (·.path) <;> simp [addNew, known, Ne.symm equal]

end PathGroup

/-! ## The first pass -/

/-- Tables under construction, with the untyped nodes set aside. -/
structure TableScan where
  tables : IndexTables
  untyped : List PathGroup

namespace TableScan

def start : TableScan := ⟨⟨#[], [], [], []⟩, []⟩

def keep (scan : TableScan) (node : SchemaNode) : TableScan :=
  let tables := scan.tables
  let position := tables.nodes.size
  if node.typed then
    { scan with tables := { tables with
      nodes := tables.nodes.push node
      listed := addNew node.simplePath tables.listed
      positions := PathGroup.add node.simplePath position tables.positions } }
  else
    { tables := { tables with nodes := tables.nodes.push node }
      untyped := PathGroup.add node.simplePath position scan.untyped }

def visit (excluded : String → Bool) (scan : TableScan) (node : SchemaNode) : TableScan :=
  if node.simplePath.meets excluded then scan else scan.keep node

def ofNodes (nodes : List SchemaNode) (excluded : String → Bool) : TableScan :=
  nodes.foldl (visit excluded) start

structure Follows (scan : TableScan) (grouped : IndexScan) : Prop where
  nodes : scan.tables.nodes = grouped.nodes
  listed : scan.tables.listed = grouped.listed.map (·.path)
  positions : scan.tables.positions = grouped.listed
  untypedOnly : scan.tables.untypedOnly = []
  untyped : scan.untyped = grouped.untyped

theorem Follows.keep {scan : TableScan} {grouped : IndexScan} (follows : scan.Follows grouped)
    (node : SchemaNode) : (scan.keep node).Follows (grouped.keep node) := by
  unfold TableScan.keep IndexScan.keep
  cases typed : node.typed with
  | true =>
    exact {
      nodes := congrArg (·.push node) follows.nodes
      listed := by simp [PathGroup.map_path_add, follows.listed]
      positions := by simp [follows.positions, follows.nodes]
      untypedOnly := follows.untypedOnly
      untyped := follows.untyped }
  | false =>
    exact {
      nodes := congrArg (·.push node) follows.nodes
      listed := follows.listed
      positions := follows.positions
      untypedOnly := follows.untypedOnly
      untyped := by simp [follows.untyped, follows.nodes] }

theorem Follows.visit {scan : TableScan} {grouped : IndexScan} (follows : scan.Follows grouped)
    (excluded : String → Bool) (node : SchemaNode) :
    (scan.visit excluded node).Follows (grouped.visit excluded node) := by
  have counted : scan.Follows (grouped.count node) := by
    constructor <;> simp [follows.nodes, follows.listed, follows.positions, follows.untypedOnly,
      follows.untyped]
  unfold TableScan.visit IndexScan.visit
  split
  · exact counted
  · exact counted.keep node

theorem follows_ofNodes (nodes : List SchemaNode) (excluded : String → Bool) :
    (ofNodes nodes excluded).Follows (IndexScan.ofNodes nodes excluded) := by
  induction nodes using List.reverseRecOn with
  | nil => exact ⟨rfl, rfl, rfl, rfl, rfl⟩
  | append_singleton front node induction =>
    rw [ofNodes, IndexScan.ofNodes, List.foldl_concat, List.foldl_concat]
    exact induction.visit excluded node

end TableScan

namespace IndexTables

/-! ## The second pass -/

def addUntyped (tables : IndexTables) (group : PathGroup) : IndexTables :=
  if group.path ∈ tables.listed then tables
  else { tables with
    positions := PathGroup.put group tables.positions
    untypedOnly := addNew group.path tables.untypedOnly }

def ofNodes (nodes : List SchemaNode) (excluded : String → Bool) : IndexTables :=
  let scan := TableScan.ofNodes nodes excluded
  scan.untyped.foldl addUntyped scan.tables

/-- The second pass appends the groups whose path is not listed. The keys of the map are the paths
of both lists all the time. -/
theorem foldl_addUntyped {groups : List PathGroup} (distinctPaths : (groups.map (·.path)).Nodup) :
    (tables : IndexTables) →
      tables.positions.map (·.path) = tables.listed ++ tables.untypedOnly →
      (∀ group ∈ groups, group.path ∉ tables.untypedOnly) →
      groups.foldl addUntyped tables =
        { tables with
          positions := tables.positions ++ groups.filter fun group => group.path ∉ tables.listed
          untypedOnly := tables.untypedOnly ++
            (groups.filter fun group => group.path ∉ tables.listed).map (·.path) } := by
  induction groups with
  | nil => intro tables _ _; simp
  | cons group rest induction =>
    intro tables keys fresh
    rw [List.map_cons, List.nodup_cons] at distinctPaths
    have restFresh : ∀ other ∈ rest, other.path ∉ tables.untypedOnly := fun other member =>
      fresh other (List.mem_cons_of_mem group member)
    rw [List.foldl_cons, addUntyped]
    by_cases known : group.path ∈ tables.listed
    · rw [if_pos known, induction distinctPaths.2 tables keys restFresh]
      simp [known]
    · have groupFresh := fresh group List.mem_cons_self
      have absent : group.path ∉ tables.positions.map (·.path) := by
        rw [keys, List.mem_append]
        exact fun member => member.elim known groupFresh
      rw [if_neg known, PathGroup.put_of_not_mem absent, addNew, if_neg groupFresh,
        induction distinctPaths.2]
      · simp [known]
      · simp [keys]
      · intro other member
        have differs : other.path ≠ group.path := fun equal =>
          distinctPaths.1 (equal ▸ List.mem_map_of_mem member)
        simp [restFresh other member, differs]

structure Represents (tables : IndexTables) (index : PathIndex) : Prop where
  nodes : tables.nodes = index.nodes
  listed : tables.listed = index.paths
  untypedOnly : tables.untypedOnly = index.untypedOnly.map (·.path)
  positions : tables.positions = index.listed ++ index.untypedOnly

theorem represents_ofNodes (nodes : List SchemaNode) (excluded : String → Bool) :
    (ofNodes nodes excluded).Represents (PathIndex.build nodes excluded) := by
  have follows := TableScan.follows_ofNodes nodes excluded
  have holds := IndexScan.holds_ofNodes nodes excluded
  have distinctPaths : ((IndexScan.ofNodes nodes excluded).untyped.map (·.path)).Nodup := by
    rw [holds.untyped, PathGroup.ofNumbered_eq, List.map_map]
    exact (List.map_id _).symm ▸ nodup_distinct _
  have filled := foldl_addUntyped distinctPaths (TableScan.ofNodes nodes excluded).tables
    (by simp [follows.positions, follows.listed, follows.untypedOnly])
    (by simp [follows.untypedOnly])
  rw [← IndexScan.finish_ofNodes]
  rw [← follows.untyped] at filled
  constructor <;> rw [ofNodes, filled] <;>
    simp [IndexScan.finish, PathIndex.paths, follows.nodes, follows.listed, follows.positions,
      follows.untypedOnly, follows.untyped]

/-! ## Tables in step -/

def positions? (tables : IndexTables) (path : SimplePath) : Option (List Nat) :=
  PathGroup.positions? tables.positions path

structure WellFormed (tables : IndexTables) : Prop where
  nodup_listed : tables.listed.Nodup
  nodup_untypedOnly : tables.untypedOnly.Nodup
  disjoint : ∀ path ∈ tables.listed, path ∉ tables.untypedOnly
  keys : ∀ path, (tables.positions? path).isSome = true ↔
    path ∈ tables.listed ∨ path ∈ tables.untypedOnly
  nonempty : ∀ path positions, tables.positions? path = some positions → positions ≠ []
  ascending : ∀ path positions, tables.positions? path = some positions →
    positions.Pairwise (· < ·)
  inRange : ∀ path positions, tables.positions? path = some positions →
    ∀ position ∈ positions, position < tables.nodes.size
  leads : ∀ path positions, tables.positions? path = some positions →
    ∀ position ∈ positions, ∃ node, tables.nodes[position]? = some node ∧
      node.simplePath = path ∧ (node.typed = true ↔ path ∈ tables.listed)
  apart : ∀ path positions other otherPositions, tables.positions? path = some positions →
    tables.positions? other = some otherPositions →
    ∀ position ∈ positions, position ∈ otherPositions → path = other

end IndexTables

namespace PathLookup

variable {nodes : List SchemaNode} {keep : SchemaNode → Bool} {path : SimplePath}

theorem positions_ne_nil (member : path ∈ pathsOf (nodes.filter keep)) :
    (PathGroup.ofPath (numberedWhere nodes keep) path).positions ≠ [] := by
  rcases mem_pathsOf.mp member with ⟨node, inside, equal⟩
  rw [← map_fst_numberedWhere] at inside
  rcases List.mem_map.mp inside with ⟨entry, numbered, rfl⟩
  exact List.ne_nil_of_mem
    (List.mem_map_of_mem (List.mem_filter.mpr ⟨numbered, decide_eq_true equal⟩))

theorem pairwise_positions (nodes : List SchemaNode) (keep : SchemaNode → Bool)
    (path : SimplePath) :
    (PathGroup.ofPath (numberedWhere nodes keep) path).positions.Pairwise (· < ·) := by
  have numbers : (nodes.zipIdx.map (·.2)).Pairwise (· < ·) := by
    rw [List.zipIdx_map_snd]
    exact List.pairwise_lt_range'
  have chosen : (PathGroup.ofPath (numberedWhere nodes keep) path).positions.Sublist
      (nodes.zipIdx.map (·.2)) :=
    (List.filter_sublist.trans List.filter_sublist).map _
  exact numbers.sublist chosen

theorem exists_node_of_mem_positions {position : Nat}
    (member : position ∈ (PathGroup.ofPath (numberedWhere nodes keep) path).positions) :
    ∃ node, nodes[position]? = some node ∧ node.simplePath = path ∧ keep node = true := by
  rcases List.mem_map.mp member with ⟨entry, chosen, rfl⟩
  rcases List.mem_filter.mp chosen with ⟨kept, here⟩
  rcases List.mem_filter.mp kept with ⟨numbered, passes⟩
  exact ⟨entry.1, List.mem_zipIdx_iff_getElem?.mp numbered, of_decide_eq_true here, passes⟩

end PathLookup

namespace PathGroup

theorem positions?_of_mem {groups : List PathGroup} {group : PathGroup}
    (distinctPaths : (groups.map (·.path)).Nodup) (member : group ∈ groups) :
    positions? groups group.path = some group.positions := by
  induction groups with
  | nil => cases member
  | cons first rest induction =>
    rw [List.map_cons, List.nodup_cons] at distinctPaths
    rcases List.mem_cons.mp member with rfl | below
    · simp [positions?]
    · have differs : first.path ≠ group.path := fun equal =>
        distinctPaths.1 (equal ▸ List.mem_map_of_mem below)
      have found := induction distinctPaths.2 below
      rw [positions?] at found ⊢
      rw [List.find?_cons_of_neg (by simpa using differs), found]

end PathGroup

namespace IndexTables

theorem exists_positions_ofNodes {nodes : List SchemaNode} {excluded : String → Bool}
    {path : SimplePath} {positions : List Nat}
    (found : (PathIndex.build nodes excluded).positions? path = some positions) :
    ∃ keep : SchemaNode → Bool,
      positions = (PathGroup.ofPath (numberedWhere (admitted nodes excluded) keep) path).positions ∧
      path ∈ pathsOf ((admitted nodes excluded).filter keep) ∧
      ∀ node, keep node = true →
        (node.typed = true ↔ path ∈ (PathIndex.build nodes excluded).paths) := by
  rw [PathIndex.paths_build]
  rw [PathIndex.positions?_build] at found
  split at found
  · rename_i typed
    exact ⟨(·.typed), (Option.some.inj found).symm, typed, fun node kept => by simp [kept, typed]⟩
  · rename_i untyped
    split at found
    · rename_i alone
      refine ⟨fun node => ¬ node.typed, (Option.some.inj found).symm,
        (mem_untypedOnlyPaths.mp alone).1, fun node kept => ?_⟩
      have noType : node.typed = false := by simpa using kept
      simp [noType, untyped]
    · cases found

theorem Represents.positions?_eq {tables : IndexTables} {index : PathIndex}
    (represents : tables.Represents index) (path : SimplePath) :
    tables.positions? path = index.positions? path := by
  rw [positions?, represents.positions]
  rfl

theorem WellFormed.of_represents {tables : IndexTables} {nodes : List SchemaNode}
    {excluded : String → Bool} (represents : tables.Represents (PathIndex.build nodes excluded)) :
    tables.WellFormed := by
  let index := PathIndex.build nodes excluded
  have listed : tables.listed = pathsOf (typedOf (admitted nodes excluded)) := by
    rw [represents.listed, PathIndex.paths_build]
  have untypedOnly : tables.untypedOnly = untypedOnlyPaths (admitted nodes excluded) := by
    rw [represents.untypedOnly, PathIndex.untypedOnly_build, List.map_map]
    exact List.map_id _
  have leads : ∀ path positions, tables.positions? path = some positions →
      ∀ position ∈ positions, ∃ node, tables.nodes[position]? = some node ∧
        node.simplePath = path ∧ (node.typed = true ↔ path ∈ tables.listed) := by
    intro path positions found position member
    rw [represents.positions?_eq] at found
    rcases exists_positions_ofNodes found with ⟨keep, rfl, _, typed⟩
    rcases exists_node_of_mem_positions member with ⟨node, here, equal, kept⟩
    refine ⟨node, ?_, equal, ?_⟩
    · rw [represents.nodes]
      simpa [PathIndex.build, admitted] using here
    · rw [represents.listed]
      exact typed node kept
  constructor
  case nodup_listed => exact listed ▸ nodup_distinct _
  case nodup_untypedOnly => exact untypedOnly ▸ (nodup_distinct _).filter _
  case disjoint =>
    rw [listed, untypedOnly]
    exact fun path typed alone => (mem_untypedOnlyPaths.mp alone).2 typed
  case keys =>
    intro path
    rw [represents.positions?_eq, PathIndex.positions?_build_isSome, mem_pathsOf_iff, listed,
      untypedOnly]
  case nonempty =>
    intro path positions found
    rw [represents.positions?_eq] at found
    rcases exists_positions_ofNodes found with ⟨keep, rfl, member, _⟩
    exact positions_ne_nil member
  case ascending =>
    intro path positions found
    rw [represents.positions?_eq] at found
    rcases exists_positions_ofNodes found with ⟨keep, rfl, _, _⟩
    exact pairwise_positions _ keep path
  case inRange =>
    intro path positions found position member
    rcases leads path positions found position member with ⟨node, here, _⟩
    exact (Array.getElem?_eq_some_iff.mp here).1
  case leads => exact leads
  case apart =>
    intro path positions other otherPositions found otherFound position member otherMember
    rcases leads path positions found position member with ⟨node, here, equal, _⟩
    rcases leads other otherPositions otherFound position otherMember with ⟨same, there, rfl, _⟩
    rw [here] at there
    cases there
    exact equal.symm

/-! ## Lookups that follow the tables -/

def nodesAt? (tables : IndexTables) (positions : List Nat) : Option (List SchemaNode) :=
  positions.mapM fun position => tables.nodes[position]?

def nodesUnder? (tables : IndexTables) (path : SimplePath) : Option (List SchemaNode) := do
  tables.nodesAt? (← tables.positions? path)

def schemas? (tables : IndexTables) (query : List String) : Option (List SchemaNode) :=
  if query.isEmpty then some []
  else match tables.positions? ⟨query⟩ with
    | some positions => tables.nodesAt? positions
    | none =>
      List.flatten <$> ((tables.listed ++ tables.untypedOnly).filter (·.endsWith query)).mapM
        tables.nodesUnder?

theorem mapM_eq_some_filterMap {α β : Type} {step? : α → Option β} : {list : List α} →
    (∀ value ∈ list, (step? value).isSome = true) → list.mapM step? = some (list.filterMap step?)
  | [], _ => rfl
  | value :: rest, each => by
    rcases Option.isSome_iff_exists.mp (each value List.mem_cons_self) with ⟨result, found⟩
    have below := mapM_eq_some_filterMap fun other member =>
      each other (List.mem_cons_of_mem value member)
    simp [found, below]

section Lookups

variable {tables : IndexTables} {index : PathIndex} {path : SimplePath} {positions : List Nat}

theorem WellFormed.nodesAt?_eq (wellFormed : tables.WellFormed)
    (found : tables.positions? path = some positions) :
    tables.nodesAt? positions =
      some (positions.filterMap fun position => tables.nodes[position]?) :=
  mapM_eq_some_filterMap fun position member => by
    rcases wellFormed.leads path positions found position member with ⟨node, here, _⟩
    simp [here]

theorem WellFormed.isSome_nodesUnder? (wellFormed : tables.WellFormed)
    (member : path ∈ tables.listed ++ tables.untypedOnly) :
    (tables.nodesUnder? path).isSome = true := by
  have known := (wellFormed.keys path).mpr (List.mem_append.mp member)
  rcases Option.isSome_iff_exists.mp known with ⟨positions, found⟩
  rw [nodesUnder?, found]
  simp [wellFormed.nodesAt?_eq found]

theorem Represents.nodesUnder?_eq (represents : tables.Represents index)
    (wellFormed : tables.WellFormed) {group : PathGroup}
    (member : group ∈ index.listed ++ index.untypedOnly) :
    tables.nodesUnder? group.path = some (index.nodesAt group.positions) := by
  have distinctPaths : (tables.positions.map (·.path)).Nodup := by
    have keys : tables.positions.map (·.path) = tables.listed ++ tables.untypedOnly := by
      rw [represents.positions, represents.listed, represents.untypedOnly, List.map_append]
      rfl
    rw [keys]
    refine List.nodup_append.mpr ⟨wellFormed.nodup_listed, wellFormed.nodup_untypedOnly, ?_⟩
    rintro path listed _ untyped rfl
    exact wellFormed.disjoint path listed untyped
  have found : tables.positions? group.path = some group.positions :=
    PathGroup.positions?_of_mem distinctPaths (represents.positions ▸ member)
  rw [nodesUnder?, found, PathIndex.nodesAt, ← represents.nodes]
  exact wellFormed.nodesAt?_eq found

theorem Represents.schemas?_eq (represents : tables.Represents index)
    (wellFormed : tables.WellFormed) (query : List String) :
    tables.schemas? query = some (index.schemas query) := by
  rw [schemas?, PathIndex.schemas, ← represents.positions?_eq]
  split
  · rfl
  · cases found : tables.positions? ⟨query⟩ with
    | some positions =>
      dsimp only
      rw [PathIndex.nodesAt, ← represents.nodes]
      exact wellFormed.nodesAt?_eq found
    | none =>
      let groups := (index.listed ++ index.untypedOnly).filter (·.path.endsWith query)
      have candidates : (tables.listed ++ tables.untypedOnly).filter (·.endsWith query) =
          groups.map (·.path) := by
        rw [represents.listed, represents.untypedOnly, PathIndex.paths, ← List.map_append,
          List.filter_map]
        rfl
      have followed : (groups.map (·.path)).filterMap tables.nodesUnder? =
          groups.map fun group => index.nodesAt group.positions := by
        rw [List.filterMap_map, ← List.filterMap_eq_map]
        apply List.filterMap_congr
        intro group member
        exact represents.nodesUnder?_eq wellFormed (List.mem_filter.mp member).1
      dsimp only
      rw [mapM_eq_some_filterMap fun path member =>
        wellFormed.isSome_nodesUnder? (List.mem_filter.mp member).1, candidates, followed,
        List.flatMap_def]
      rfl

end Lookups

/-- The tables of any nodes under any exclusion are in step and hold what the index holds, so every
query can be followed through them, to the nodes that the index finds. -/
theorem wellFormed_ofNodes (nodes : List SchemaNode) (excluded : String → Bool) :
    let tables := ofNodes nodes excluded
    let index := PathIndex.build nodes excluded
    tables.Represents index ∧ tables.WellFormed ∧
      ∀ query, tables.schemas? query = some (index.schemas query) := by
  intro tables index
  have represents : tables.Represents index := represents_ofNodes nodes excluded
  have wellFormed := WellFormed.of_represents represents
  exact ⟨represents, wellFormed, represents.schemas?_eq wellFormed⟩

end IndexTables

end ChartDialogue
