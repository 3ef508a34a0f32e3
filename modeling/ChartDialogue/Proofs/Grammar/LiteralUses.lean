import ChartDialogue.Grammar.EnumIndex
import ChartDialogue.Proofs.Grammar.LoadedNodes
import ChartDialogue.Proofs.Grammar.PathLookup

/-! # Where literals are used

The index of literals is the nodes turned around: a literal has the first declared type and the path
of every node that enumerates it. Types and paths are noted together, so a literal has both or
neither.
-/

namespace ChartDialogue

namespace SchemaNode

def Enumerates (node : SchemaNode) (literal : String) : Prop :=
  ∃ literals, node.enumeration = some literals ∧ literals.contains literal = true

/-- What a node says of a literal: its first declared type and its path, if it enumerates the
literal and declares a type. -/
def occurrence? (node : SchemaNode) (literal : String) : Option (DeclaredType × SimplePath) :=
  node.enumeration.bind fun literals =>
    if literals.contains literal then node.types.head?.map (·, node.simplePath) else none

theorem occurrence?_eq_some_iff {node : SchemaNode} {literal : String} {declared : DeclaredType}
    {path : SimplePath} :
    node.occurrence? literal = some (declared, path) ↔
      node.Enumerates literal ∧ node.types.head? = some declared ∧ node.simplePath = path := by
  cases enumeration : node.enumeration with
  | none => simp [occurrence?, Enumerates, enumeration]
  | some literals =>
    cases contained : literals.contains literal <;>
      simp [occurrence?, Enumerates, enumeration, contained]

end SchemaNode

namespace LiteralUse

def ofOccurrences (occurrences : List (DeclaredType × SimplePath)) : LiteralUse :=
  ⟨distinct (occurrences.map (·.1)), distinct (occurrences.map (·.2))⟩

def ofOccurrences? (occurrences : List (DeclaredType × SimplePath)) : Option LiteralUse :=
  if occurrences.isEmpty then Option.none else some (ofOccurrences occurrences)

theorem getD_ofOccurrences? (occurrences : List (DeclaredType × SimplePath)) :
    (ofOccurrences? occurrences).getD none = ofOccurrences occurrences := by
  cases occurrences <;> rfl

theorem addNew_distinct {α : Type} [DecidableEq α] (value : α) (values : List α) :
    addNew value (distinct values) = distinct (values ++ [value]) := by
  rw [distinct_concat, addNew]
  simp only [mem_distinct]

theorem add_ofOccurrences (occurrences : List (DeclaredType × SimplePath))
    (declared : DeclaredType) (path : SimplePath) :
    (ofOccurrences occurrences).add declared path =
      ofOccurrences (occurrences ++ [(declared, path)]) := by
  simp [ofOccurrences, add, addNew_distinct]

end LiteralUse

namespace EnumIndex

/-! ## One node -/

theorem find?_note (declared : DeclaredType) (path : SimplePath) (index : EnumIndex)
    (literal other : String) :
    (note declared path index literal).uses.find? other =
      if other = literal then
        some (((index.uses.find? literal).getD LiteralUse.none).add declared path)
      else index.uses.find? other := by
  by_cases same : other = literal
  · rw [if_pos same, same]
    exact StringMap.find?_insert_self index.uses literal _
  · rw [if_neg same]
    exact StringMap.find?_insert_of_ne index.uses _ same

theorem find?_foldl_note (declared : DeclaredType) (path : SimplePath) (other : String) :
    {literals : List String} → literals.Nodup → (index : EnumIndex) →
      (literals.foldl (note declared path) index).uses.find? other =
        if other ∈ literals then
          some (((index.uses.find? other).getD LiteralUse.none).add declared path)
        else index.uses.find? other
  | [], _, _ => rfl
  | literal :: rest, nodup, index => by
    rcases List.nodup_cons.mp nodup with ⟨fresh, restNodup⟩
    rw [List.foldl_cons, find?_foldl_note declared path other restNodup, find?_note]
    by_cases same : other = literal
    · subst same
      simp [fresh]
    · simp [same]

theorem find?_addNode (index : EnumIndex) (node : SchemaNode) (literal : String) :
    (index.addNode node).uses.find? literal =
      match node.occurrence? literal with
      | some (declared, path) =>
        some (((index.uses.find? literal).getD LiteralUse.none).add declared path)
      | none => index.uses.find? literal := by
  unfold addNode SchemaNode.occurrence?
  cases node.enumeration with
  | none => rfl
  | some literals =>
    cases node.types.head? with
    | none => simp
    | some declared =>
      dsimp only [Option.bind_some, Option.map_some]
      rw [find?_foldl_note declared node.simplePath literal literals.nodup_toList]
      by_cases listed : literal ∈ literals.toList
      · simp [listed, StringSet.contains_iff_mem_toList.mpr listed]
      · have absent : literals.contains literal = false := by
          rw [Bool.eq_false_iff]
          exact fun contained => listed (StringSet.contains_iff_mem_toList.mp contained)
        simp [listed, absent]

/-! ## All nodes -/

def occurrences (nodes : List SchemaNode) (literal : String) : List (DeclaredType × SimplePath) :=
  nodes.filterMap fun node => node.occurrence? literal

theorem mem_occurrences {nodes : List SchemaNode} {literal : String} {declared : DeclaredType}
    {path : SimplePath} :
    (declared, path) ∈ occurrences nodes literal ↔
      ∃ node ∈ nodes, node.Enumerates literal ∧ node.types.head? = some declared ∧
        node.simplePath = path := by
  simp only [occurrences, List.mem_filterMap, SchemaNode.occurrence?_eq_some_iff]

theorem occurrences_concat (front : List SchemaNode) (node : SchemaNode) (literal : String) :
    occurrences (front ++ [node]) literal =
      occurrences front literal ++ (node.occurrence? literal).toList := by
  rw [occurrences, List.filterMap_append, occurrences]
  cases said : node.occurrence? literal <;> simp [said]

theorem find?_build (nodes : List SchemaNode) (literal : String) :
    (build nodes).uses.find? literal = LiteralUse.ofOccurrences? (occurrences nodes literal) := by
  induction nodes using List.reverseRecOn with
  | nil => rfl
  | append_singleton front node induction =>
    have step : build (front ++ [node]) = (build front).addNode node := by
      rw [build, List.foldl_append]
      rfl
    rw [step, find?_addNode, induction, occurrences_concat]
    cases node.occurrence? literal with
    | none => simp
    | some occurrence =>
      dsimp only
      rw [LiteralUse.getD_ofOccurrences?, LiteralUse.add_ofOccurrences]
      simp [LiteralUse.ofOccurrences?]

/-! ## What the index answers -/

section Answers

variable {nodes : List SchemaNode} {literal : String}

theorem types?_build (nodes : List SchemaNode) (literal : String) :
    (build nodes).types? literal = (LiteralUse.ofOccurrences? (occurrences nodes literal)).map
      fun use => DeclaredType.all.filter (· ∈ use.types) := by
  rw [types?, find?_build]

theorem paths?_build (nodes : List SchemaNode) (literal : String) :
    (build nodes).paths? literal = (LiteralUse.ofOccurrences? (occurrences nodes literal)).map
      fun use => SimplePath.sort use.paths := by
  rw [paths?, find?_build]

theorem mem_types?_iff {declared : DeclaredType} :
    (∃ types, (build nodes).types? literal = some types ∧ declared ∈ types) ↔
      ∃ node ∈ nodes, node.Enumerates literal ∧ node.types.head? = some declared := by
  have listed : (∃ types, (build nodes).types? literal = some types ∧ declared ∈ types) ↔
      declared ∈ (occurrences nodes literal).map (·.1) := by
    rw [types?_build]
    cases occurrences nodes literal <;>
      simp [LiteralUse.ofOccurrences?, LiteralUse.ofOccurrences, DeclaredType.mem_all]
  rw [listed]
  simp [mem_occurrences]

theorem mem_paths?_iff {path : SimplePath} :
    (∃ paths, (build nodes).paths? literal = some paths ∧ path ∈ paths) ↔
      ∃ node ∈ nodes, node.Enumerates literal ∧ node.types ≠ [] ∧ node.simplePath = path := by
  have listed : (∃ paths, (build nodes).paths? literal = some paths ∧ path ∈ paths) ↔
      path ∈ (occurrences nodes literal).map (·.2) := by
    rw [paths?_build]
    cases occurrences nodes literal <;>
      simp [LiteralUse.ofOccurrences?, LiteralUse.ofOccurrences, SimplePath.sort]
  rw [listed]
  simp only [List.mem_map, Prod.exists, mem_occurrences]
  constructor
  · rintro ⟨declared, _, ⟨node, member, enumerates, first, rfl⟩, rfl⟩
    exact ⟨node, member, enumerates, List.ne_nil_of_mem (List.mem_of_head? first), rfl⟩
  · rintro ⟨node, member, enumerates, declares, rfl⟩
    exact ⟨node.types.head declares, _, ⟨node, member, enumerates, List.head?_eq_some_head declares,
      rfl⟩, rfl⟩

theorem nodup_types (nodes : List SchemaNode) (literal : String) :
    (((build nodes).types? literal).getD []).Nodup := by
  rw [types?_build]
  cases LiteralUse.ofOccurrences? (occurrences nodes literal) with
  | none => exact List.nodup_nil
  | some use =>
    have once : DeclaredType.all.Nodup := by decide
    rw [Option.map_some, Option.getD_some]
    exact List.Pairwise.filter (fun declared => decide (declared ∈ use.types)) once

theorem nodup_paths (nodes : List SchemaNode) (literal : String) :
    (((build nodes).paths? literal).getD []).Nodup := by
  rw [paths?_build, LiteralUse.ofOccurrences?]
  split
  · exact List.nodup_nil
  · exact (List.mergeSort_perm _ _).nodup_iff.mpr (nodup_distinct _)

def Occurs (nodes : List SchemaNode) (literal : String) : Prop :=
  ∃ node ∈ nodes, node.Enumerates literal ∧ node.types ≠ []

theorem isSome_ofOccurrences?_iff :
    (LiteralUse.ofOccurrences? (occurrences nodes literal)).isSome = true ↔
      Occurs nodes literal := by
  have present : (LiteralUse.ofOccurrences? (occurrences nodes literal)).isSome = true ↔
      ∃ declared path, (declared, path) ∈ occurrences nodes literal := by
    cases occurrences nodes literal with
    | nil => simp [LiteralUse.ofOccurrences?]
    | cons first rest =>
      simp only [LiteralUse.ofOccurrences?, List.isEmpty_cons]
      exact iff_of_true rfl ⟨first.1, first.2, List.mem_cons_self⟩
  rw [present]
  simp only [mem_occurrences, Occurs]
  constructor
  · rintro ⟨declared, path, node, member, enumerates, first, _⟩
    exact ⟨node, member, enumerates, List.ne_nil_of_mem (List.mem_of_head? first)⟩
  · rintro ⟨node, member, enumerates, declares⟩
    exact ⟨node.types.head declares, _, node, member, enumerates,
      List.head?_eq_some_head declares, rfl⟩

theorem isSome_types?_iff :
    ((build nodes).types? literal).isSome = true ↔ Occurs nodes literal := by
  rw [types?_build, Option.isSome_map, isSome_ofOccurrences?_iff]

theorem isSome_paths?_iff :
    ((build nodes).paths? literal).isSome = true ↔ Occurs nodes literal := by
  rw [paths?_build, Option.isSome_map, isSome_ofOccurrences?_iff]

theorem mem_literals_iff : literal ∈ (build nodes).literals ↔ Occurs nodes literal := by
  rw [literals, ← StringMap.contains_iff_mem_keys, StringMap.contains, find?_build,
    isSome_ofOccurrences?_iff]

/-- A typed node of a grammar declares a type, so no path of a literal is missing. -/
theorem mem_paths?_typedNodes_iff (grammar : Grammar) {path : SimplePath} :
    (∃ paths, (build grammar.typedNodes).paths? literal = some paths ∧ path ∈ paths) ↔
      ∃ node ∈ grammar.typedNodes, node.Enumerates literal ∧ node.simplePath = path := by
  rw [mem_paths?_iff]
  constructor
  · rintro ⟨node, member, enumerates, _, here⟩
    exact ⟨node, member, enumerates, here⟩
  · rintro ⟨node, member, enumerates, here⟩
    have declares := (grammar.consistent_of_mem (List.mem_filter.mp member).1).nonempty
    exact ⟨node, member, enumerates, declares, here⟩

end Answers

end EnumIndex

/-! ## Two maps -/

structure LiteralMaps where
  types : StringMap (List DeclaredType)
  paths : StringMap (List SimplePath)

namespace LiteralMaps

def empty : LiteralMaps := ⟨StringMap.empty, StringMap.empty⟩

def note (declared : DeclaredType) (path : SimplePath) (maps : LiteralMaps) (literal : String) :
    LiteralMaps where
  types := maps.types.insert literal
    (LiteralUse.addNew declared ((maps.types.find? literal).getD []))
  paths := maps.paths.insert literal
    (LiteralUse.addNew path ((maps.paths.find? literal).getD []))

def addNode (maps : LiteralMaps) (node : SchemaNode) : LiteralMaps :=
  match node.enumeration, node.types.head? with
  | some literals, some declared => literals.toList.foldl (note declared node.simplePath) maps
  | _, _ => maps

def ofNodes (nodes : List SchemaNode) : LiteralMaps := nodes.foldl addNode empty

structure Split (maps : LiteralMaps) (index : EnumIndex) : Prop where
  types : ∀ literal, maps.types.find? literal = (index.uses.find? literal).map (·.types)
  paths : ∀ literal, maps.paths.find? literal = (index.uses.find? literal).map (·.paths)

theorem Split.note {maps : LiteralMaps} {index : EnumIndex} (split : maps.Split index)
    (declared : DeclaredType) (path : SimplePath) (literal : String) :
    (LiteralMaps.note declared path maps literal).Split
      (EnumIndex.note declared path index literal) := by
  constructor
  · intro other
    rw [EnumIndex.find?_note, LiteralMaps.note]
    by_cases same : other = literal
    · rw [same, if_pos rfl, StringMap.find?_insert_self, split.types]
      cases index.uses.find? literal <;> rfl
    · rw [if_neg same, StringMap.find?_insert_of_ne _ _ same, split.types]
  · intro other
    rw [EnumIndex.find?_note, LiteralMaps.note]
    by_cases same : other = literal
    · rw [same, if_pos rfl, StringMap.find?_insert_self, split.paths]
      cases index.uses.find? literal <;> rfl
    · rw [if_neg same, StringMap.find?_insert_of_ne _ _ same, split.paths]

theorem Split.foldl_note (declared : DeclaredType) (path : SimplePath) :
    (literals : List String) → {maps : LiteralMaps} → {index : EnumIndex} → maps.Split index →
      (literals.foldl (LiteralMaps.note declared path) maps).Split
        (literals.foldl (EnumIndex.note declared path) index)
  | [], _, _, split => split
  | literal :: rest, _, _, split => foldl_note declared path rest (split.note declared path literal)

theorem Split.addNode {maps : LiteralMaps} {index : EnumIndex} (split : maps.Split index)
    (node : SchemaNode) : (maps.addNode node).Split (index.addNode node) := by
  unfold LiteralMaps.addNode EnumIndex.addNode
  cases node.enumeration with
  | none => exact split
  | some literals =>
    cases node.types.head? with
    | none => exact split
    | some declared => exact split.foldl_note declared node.simplePath literals.toList

theorem split_ofNodes (nodes : List SchemaNode) :
    (ofNodes nodes).Split (EnumIndex.build nodes) := by
  suffices general : ∀ {maps : LiteralMaps} {index : EnumIndex}, maps.Split index →
      (nodes.foldl addNode maps).Split (nodes.foldl EnumIndex.addNode index) from
    general ⟨fun _ => rfl, fun _ => rfl⟩
  induction nodes with
  | nil => exact fun split => split
  | cons node rest induction => exact fun split => induction (split.addNode node)

end LiteralMaps

/-- The index turns the nodes around. To a literal belong the first declared types and the paths of
the nodes that enumerate it and declare a type, each once, and it has both or neither. The literals
are listed in ascending order, and a map of types and a map of paths grown side by side hold the
same. -/
theorem EnumIndex.build_reverses (nodes : List SchemaNode) :
    let index := build nodes
    (LiteralMaps.ofNodes nodes).Split index ∧
    (∀ literal declared, (∃ types, index.types? literal = some types ∧ declared ∈ types) ↔
      ∃ node ∈ nodes, node.Enumerates literal ∧ node.types.head? = some declared) ∧
    (∀ literal path, (∃ paths, index.paths? literal = some paths ∧ path ∈ paths) ↔
      ∃ node ∈ nodes, node.Enumerates literal ∧ node.types ≠ [] ∧ node.simplePath = path) ∧
    (∀ (grammar : Grammar) (literal : String) (path : SimplePath),
      (∃ paths, (build grammar.typedNodes).paths? literal = some paths ∧ path ∈ paths) ↔
        ∃ node ∈ grammar.typedNodes, node.Enumerates literal ∧ node.simplePath = path) ∧
    (∀ literal, ((index.types? literal).getD []).Nodup ∧
      ((index.paths? literal).getD []).Nodup) ∧
    (∀ literal, ((index.types? literal).isSome = true ↔ Occurs nodes literal) ∧
      ((index.paths? literal).isSome = true ↔ Occurs nodes literal) ∧
      (literal ∈ index.literals ↔ Occurs nodes literal)) ∧
    index.literals.Pairwise (· < ·) ∧
    index.size = index.literals.length := by
  intro index
  refine ⟨LiteralMaps.split_ofNodes nodes, fun _ _ => mem_types?_iff, fun _ _ => mem_paths?_iff,
    fun grammar _ _ => mem_paths?_typedNodes_iff grammar,
    fun literal => ⟨nodup_types nodes literal, nodup_paths nodes literal⟩,
    fun _ => ⟨isSome_types?_iff, isSome_paths?_iff, mem_literals_iff⟩, ?_, ?_⟩
  · exact index.uses.pairwise_keys
  · exact List.length_map _ |>.symm

end ChartDialogue
