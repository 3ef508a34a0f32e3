import ChartDialogue.Grammar.Grammar
import ChartDialogue.Grammar.Preorder

/-! # The nodes of a loaded grammar

Every node of a grammar was read from a site that the walk has visited. So its types agree with its
mark: a typed node names real types only, and an untyped one has the sentinel alone.
-/

namespace ChartDialogue

namespace Site

variable {document : Json}

theorem mem_ownNodes {site : Site document} {own : List SchemaNode} {node : SchemaNode}
    (found : site.ownNodes = .ok own) (member : node ∈ own) : site.node = .ok node := by
  unfold ownNodes at found
  split at found
  · cases found
    cases member
  · cases read : site.node with
    | error fault => rw [read] at found; cases found
    | ok other =>
      rw [read] at found
      cases found
      rw [List.mem_singleton.mp member]

theorem mem_walk {recorded : List SchemaNode} {stack : List (Site document)}
    {nodes : List SchemaNode} (visited : ∀ site ∈ stack, Visited site)
    (walked : walk recorded stack = .ok nodes) {node : SchemaNode} (member : node ∈ nodes) :
    node ∈ recorded ∨ ∃ site : Site document, Visited site ∧ site.node = .ok node := by
  fun_induction walk recorded stack with
  | case1 recorded =>
    cases walked
    exact .inl (List.mem_reverse.mp member)
  | case2 => cases walked
  | case3 => cases walked
  | case4 recorded site rest next found own read induction =>
    have siteVisited := visited site List.mem_cons_self
    have nextVisited : ∀ other ∈ next ++ rest, Visited other := by
      intro other inside
      rcases List.mem_append.mp inside with inside | inside
      · exact .child siteVisited found inside
      · exact visited other (List.mem_cons_of_mem site inside)
    rcases induction nextVisited walked with inside | seen
    · rcases List.mem_append.mp inside with inside | inside
      · exact .inr ⟨site, siteVisited, mem_ownNodes read inside⟩
      · exact .inl inside
    · exact .inr seen

end Site

theorem exists_site_of_mem_descendants {document : Json} {nodes : List SchemaNode}
    {node : SchemaNode} (walked : descendants document = .ok nodes) (member : node ∈ nodes) :
    ∃ site : Site document, site.Visited ∧ site.node = .ok node := by
  have visited : ∀ site ∈ [Site.root document], site.Visited := by
    intro site inside
    rw [List.mem_singleton.mp inside]
    exact .root
  rcases Site.mem_walk visited walked member with inside | seen
  · cases inside
  · exact seen

/-! ## Types and marks -/

structure SchemaNode.Consistent (node : SchemaNode) : Prop where
  nonempty : node.types ≠ []
  typed : node.typed = true → DeclaredType.untyped ∉ node.types
  untyped : node.typed = false → node.types = [.untyped]

namespace Site

variable {document : Json} {site : Site document}

theorem ne_untyped_of_readType {name : String} {declared : DeclaredType}
    (read : site.readType name = .ok declared) : declared ≠ .untyped := by
  unfold readType at read
  split at read
  · rename_i known
    cases read
    intro sentinel
    rw [sentinel] at known
    exact DeclaredType.ofName?_ne_untyped name known
  · cases read

theorem ne_untyped_of_readListedType {listed : Json} {declared : DeclaredType}
    (read : site.readListedType listed = .ok declared) : declared ≠ .untyped := by
  unfold readListedType at read
  split at read
  · exact ne_untyped_of_readType read
  · cases read

theorem not_mem_of_mapM_readListedType : {names : List Json} → {types : List DeclaredType} →
    names.mapM site.readListedType = .ok types →
      DeclaredType.untyped ∉ types ∧ (names ≠ [] → types ≠ [])
  | [], types, read => by cases read; simp
  | name :: names, types, read => by
    rw [List.mapM_cons] at read
    cases first : site.readListedType name with
    | error fault => rw [first] at read; cases read
    | ok declared =>
      cases others : names.mapM site.readListedType with
      | error fault => rw [first, others] at read; cases read
      | ok rest =>
        rw [first, others] at read
        cases read
        have real := ne_untyped_of_readListedType first
        have realRest := (not_mem_of_mapM_readListedType others).1
        simp [real.symm, realRest]

theorem types_of_typed {types : List DeclaredType} {value : Json}
    (declares : site.schema.member? "type" = some value)
    (read : site.declaredTypes = .ok types) : types ≠ [] ∧ DeclaredType.untyped ∉ types := by
  unfold declaredTypes at read
  rw [declares] at read
  split at read
  · cases ‹some value = none›
  · rename_i name _
    cases named : site.readType name with
    | error fault => rw [named] at read; cases read
    | ok declared =>
      rw [named] at read
      cases read
      exact ⟨by simp, by simpa using (ne_untyped_of_readType named).symm⟩
  · cases read
  · rename_i names nonempty _
    have listed := not_mem_of_mapM_readListedType read
    refine ⟨listed.2 ?_, listed.1⟩
    intro empty
    exact nonempty empty
  · cases read

theorem consistent_of_node {node : SchemaNode} (read : site.node = .ok node) :
    node.Consistent := by
  unfold Site.node at read
  cases types : site.declaredTypes with
  | error fault => rw [types] at read; cases read
  | ok declared =>
    rw [types] at read
    cases read
    cases member : site.schema.member? "type" with
    | none =>
      have sentinel : declared = [.untyped] := by
        rw [declaredTypes, member] at types
        cases types
        rfl
      exact ⟨by simp [sentinel], by simp, fun _ => sentinel⟩
    | some value =>
      have real := types_of_typed member types
      exact ⟨real.1, fun _ => real.2, by simp⟩

end Site

theorem Grammar.consistent_of_mem (grammar : Grammar) {node : SchemaNode}
    (member : node ∈ grammar.nodes) : node.Consistent := by
  rcases exists_site_of_mem_descendants grammar.walked member with ⟨site, _, read⟩
  exact Site.consistent_of_node read

end ChartDialogue
