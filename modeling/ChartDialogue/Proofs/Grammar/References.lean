import ChartDialogue.Proofs.Grammar.NodePointers
import ChartDialogue.Proofs.Grammar.WalkBounds

/-! # References on the way

A reference is not followed when its text is that of a hop on the way. The text is there if the
reference was followed before, and then there is a cycle to break. It is also there if a property
has this name, and then nothing is broken but what lies behind the reference is lost. Members of
combinators and list items have texts that no local reference has.
-/

namespace ChartDialogue

namespace Site

variable {document : Json}

def referent? (document : Json) (reference : String) : Option Json :=
  (localPointer? reference).bind (Pointer.resolve? document)

/-- A child that is entered by following a reference: it has the schema that the reference leads to,
and the simple path of its parent. -/
structure Follows (site : Site document) (reference : String) (child : Site document) : Prop where
  hops : child.hops = site.hops ++ [.reference reference]
  simplePath : child.simplePath = site.simplePath
  pointer : localPointer? reference = some child.pointer
  schema : referent? document reference = some child.schema

/-! ## Texts of hops -/

theorem toList_of_localPointer? {reference pointer : String}
    (isLocal : localPointer? reference = some pointer) :
    reference.toList = '#' :: pointer.toList := by
  unfold localPointer? at isLocal
  split at isLocal
  · rename_i rest characters
    cases isLocal
    rw [characters, String.toList_ofList]
  · cases isLocal

theorem eq_of_text_of_localPointer? {hop : Hop} {pointer : String}
    (isLocal : localPointer? hop.text = some pointer) :
    hop = .reference hop.text ∨ hop = .property hop.text := by
  have characters := toList_of_localPointer? isLocal
  cases hop with
  | reference text => exact .inl rfl
  | property key => exact .inr rfl
  | member combinator index =>
    cases combinator <;> simp [Hop.text, Combinator.keyword] at characters
  | item index => simp [Hop.text] at characters
  | items => simp [Hop.text] at characters

theorem mem_fullPath_iff {site : Site document} {reference pointer : String}
    (isLocal : localPointer? reference = some pointer) :
    reference ∈ site.fullPath ↔ reference ∈ site.followed ∨ .property reference ∈ site.hops := by
  constructor
  · intro member
    rcases List.mem_map.mp member with ⟨hop, inside, rfl⟩
    rcases eq_of_text_of_localPointer? isLocal with isReference | isProperty
    · refine .inl (List.mem_filterMap.mpr ⟨hop, inside, ?_⟩)
      rw [isReference]
      rfl
    · exact .inr (isProperty ▸ inside)
  · rintro (followed | named)
    · exact site.followed_subset_fullPath followed
    · exact List.mem_map.mpr ⟨_, named, rfl⟩

/-! ## Children behind references -/

theorem children_of_target {site : Site document} {targets : List (Site document)}
    (target : site.target = .ok targets) :
    site.children = .ok (Combinator.all.flatMap site.alternatives ++ targets ++ site.itemSites ++
      site.propertySites) := by
  rw [children, target]
  rfl

theorem target_of_known {site : Site document} {reference : String}
    (stated : reference? site.schema = some reference) (known : reference ∈ site.fullPath) :
    site.target = .ok [] := by
  unfold target
  split
  · rfl
  · rename_i other otherStated
    rw [stated] at otherStated
    cases otherStated
    rw [if_pos known]

theorem target_of_fresh {site : Site document} {reference : String} {schema : Json}
    (stated : reference? site.schema = some reference)
    (leads : referent? document reference = some schema) (fresh : reference ∉ site.fullPath) :
    ∃ child, site.target = .ok [child] ∧ site.Follows reference child := by
  rcases Option.bind_eq_some_iff.mp leads with ⟨pointer, isLocal, resolved⟩
  unfold target
  split
  · rename_i absent
    rw [stated] at absent
    cases absent
  · rename_i other otherStated
    rw [stated] at otherStated
    cases otherStated
    rw [if_neg fresh]
    split
    · rename_i notLocal
      rw [isLocal] at notLocal
      cases notLocal
    · rename_i otherPointer otherLocal
      rw [isLocal] at otherLocal
      cases otherLocal
      split
      · rename_i lost
        rw [resolved] at lost
        cases lost
      · rename_i found otherResolved
        rw [resolved] at otherResolved
        cases otherResolved
        exact ⟨_, rfl, rfl, rfl, isLocal, leads⟩

theorem Follows.fresh {site child : Site document} {reference : String}
    {next : List (Site document)} (found : site.children = .ok next) (member : child ∈ next)
    (follows : site.Follows reference child) : reference ∉ site.fullPath := by
  cases step_of_mem_children found member with
  | down hop way inner =>
    have same : hop = .reference reference := by simpa [follows.hops] using way.symm
    rw [same] at inner
    cases inner
  | jump other way _ fresh =>
    have same : reference = other := by simpa [follows.hops] using way
    rw [same]
    exact fresh

/-- A reference that leads to a schema never fails, and is followed unless its text is on the
way. -/
theorem follows_iff {site : Site document} {reference : String} {schema : Json}
    (stated : reference? site.schema = some reference)
    (leads : referent? document reference = some schema) :
    ∃ next, site.children = .ok next ∧
      ((∃ child ∈ next, site.Follows reference child) ↔ reference ∉ site.fullPath) := by
  by_cases known : reference ∈ site.fullPath
  · refine ⟨_, children_of_target (target_of_known stated known), ?_⟩
    refine iff_of_false ?_ (not_not_intro known)
    rintro ⟨child, member, follows⟩
    exact follows.fresh (children_of_target (target_of_known stated known)) member known
  · rcases target_of_fresh stated leads known with ⟨child, target, follows⟩
    refine ⟨_, children_of_target target, iff_of_true ⟨child, ?_, follows⟩ known⟩
    simp

/-! ## Nodes of visited sites -/

theorem exists_of_mem_of_mapM {ε α β : Type} {action : α → Except ε β} {value : α} :
    {list : List α} → {results : List β} → list.mapM action = .ok results → value ∈ list →
      ∃ result ∈ results, action value = .ok result
  | first :: rest, results, ran, member => by
    rw [List.mapM_cons] at ran
    cases head : action first with
    | error fault => rw [head] at ran; cases ran
    | ok result =>
      cases tail : rest.mapM action with
      | error fault => rw [head, tail] at ran; cases ran
      | ok others =>
        rw [head, tail] at ran
        cases ran
        rcases List.mem_cons.mp member with rfl | inside
        · exact ⟨result, List.mem_cons_self, head⟩
        · rcases exists_of_mem_of_mapM tail inside with ⟨other, listed, equal⟩
          exact ⟨other, List.mem_cons_of_mem result listed, equal⟩

theorem exists_of_preorder {site : Site document} {nodes : List SchemaNode}
    (traversed : site.preorder = .ok nodes) :
    ∃ next own below, site.children = .ok next ∧ site.ownNodes = .ok own ∧
      next.mapM preorder = .ok below ∧ nodes = own ++ below.flatten := by
  cases found : site.children with
  | error fault => rw [preorder_of_lost found] at traversed; cases traversed
  | ok next =>
    rw [preorder_of_children found] at traversed
    cases readable : site.ownNodes with
    | error fault => rw [readable] at traversed; cases traversed
    | ok own =>
      cases below : next.mapM preorder with
      | error fault => rw [readable, below] at traversed; cases traversed
      | ok lists =>
        rw [readable, below] at traversed
        cases traversed
        exact ⟨next, own, lists, rfl, rfl, below, rfl⟩

theorem Visited.traversed {nodes : List SchemaNode} (walked : descendants document = .ok nodes)
    {site : Site document} (visited : site.Visited) :
    ∃ found, site.preorder = .ok found ∧ found ⊆ nodes := by
  induction visited with
  | root => exact ⟨nodes, (descendants_eq_preorder document).symm.trans walked, fun _ => id⟩
  | child _ found member induction =>
    rcases induction with ⟨nodesHere, traversed, inside⟩
    rcases exists_of_preorder traversed with ⟨next, own, below, children, _, ran, rfl⟩
    rw [found] at children
    cases children
    rcases exists_of_mem_of_mapM ran member with ⟨nodesBelow, listed, traversedBelow⟩
    refine ⟨nodesBelow, traversedBelow, fun node inBelow => inside ?_⟩
    exact List.mem_append_right own (List.mem_flatten.mpr ⟨nodesBelow, listed, inBelow⟩)

theorem Visited.exists_node {nodes : List SchemaNode} (walked : descendants document = .ok nodes)
    {site : Site document} (visited : site.Visited) (entered : site.hops ≠ []) :
    ∃ node ∈ nodes, site.node = .ok node := by
  rcases visited.traversed walked with ⟨found, traversed, inside⟩
  rcases exists_of_preorder traversed with ⟨next, own, below, _, readable, _, rfl⟩
  rw [ownNodes_of_entered entered] at readable
  cases read : site.node with
  | error fault => rw [read] at readable; cases readable
  | ok node =>
    rw [read] at readable
    cases readable
    exact ⟨node, inside (List.mem_append_left _ (List.mem_singleton_self node)), rfl⟩

theorem paths_of_node {site : Site document} {node : SchemaNode} (read : site.node = .ok node) :
    node.simplePath = site.simplePath ∧ node.fullPath = site.fullPath := by
  unfold Site.node at read
  cases types : site.declaredTypes with
  | error fault => rw [types] at read; cases read
  | ok declared =>
    rw [types] at read
    cases read
    exact ⟨rfl, rfl⟩

/-- Where a visited schema has a reference that leads to a schema of the document, that schema is
visited behind it, with the same simple path, exactly when the reference was not followed on the
way and no property on the way has its text for a name. In a document that loads it becomes a
node. -/
theorem visits_referent_iff {site : Site document} (visited : site.Visited) {reference : String}
    {schema : Json} (stated : reference? site.schema = some reference)
    (leads : referent? document reference = some schema) :
    let fresh := reference ∉ site.followed ∧ .property reference ∉ site.hops
    (∃ next, site.children = .ok next ∧
      ((∃ child ∈ next, child.Visited ∧ site.Follows reference child) ↔ fresh)) ∧
    ∀ nodes, descendants document = .ok nodes → fresh →
      ∃ node ∈ nodes, node.fullPath = site.fullPath ++ [reference] ∧
        node.simplePath = site.simplePath ∧ localPointer? reference = some node.pointer ∧
        node.ReadFrom schema := by
  intro fresh
  rcases follows_iff stated leads with ⟨next, found, follows⟩
  rcases Option.bind_eq_some_iff.mp leads with ⟨pointer, isLocal, _⟩
  have unknown : reference ∉ site.fullPath ↔ fresh := by
    rw [mem_fullPath_iff isLocal, not_or]
  rw [unknown] at follows
  constructor
  · refine ⟨next, found, Iff.trans ?_ follows⟩
    constructor
    · rintro ⟨child, member, _, followed⟩
      exact ⟨child, member, followed⟩
    · rintro ⟨child, member, followed⟩
      exact ⟨child, member, .child visited found member, followed⟩
  · intro nodes walked isFresh
    rcases follows.mpr isFresh with ⟨child, member, followed⟩
    have entered : child.hops ≠ [] := by simp [followed.hops]
    rcases (Visited.child visited found member).exists_node walked entered with
      ⟨node, inside, read⟩
    have paths := paths_of_node read
    refine ⟨node, inside, ?_, ?_, ?_, ?_⟩
    · rw [paths.2, fullPath_of_way followed.hops]
      rfl
    · rw [paths.1, followed.simplePath]
    · rw [pointer_of_node read]
      exact followed.pointer
    · have same : child.schema = schema := Option.some.inj (followed.schema.symm.trans leads)
      exact same ▸ readFrom_of_node read

theorem visited_of_mem_children {site child : Site document} (visited : site.Visited)
    (member : child ∈ site.children.toOption.getD []) : child.Visited := by
  cases found : site.children with
  | error fault => rw [found] at member; cases member
  | ok next => rw [found] at member; exact .child visited found member

def layeredDocument : Json :=
  .ofMembers [
    ("$ref", .string "#/definitions/Chart"),
    ("definitions", .ofMembers [("Chart", .ofMembers [
      ("type", .string "object"),
      ("properties", .ofMembers [
        ("layer", .ofMembers [("$ref", .string "#/definitions/Chart")])])])])]

def layeredGrammar : Grammar where
  document := layeredDocument
  nodes := (descendants layeredDocument).toOption.getD []
  walked := by decide +kernel

theorem visits_referent_of_chart :
    (∃ next, (Site.root layeredDocument).children = .ok next ∧
      ∃ child ∈ next, child.Visited ∧
        (Site.root layeredDocument).Follows "#/definitions/Chart" child) ∧
    ∃ node ∈ layeredGrammar.nodes,
      node.fullPath = ["#/definitions/Chart"] ∧ node.simplePath = .root := by
  have stated : reference? (Site.root layeredDocument).schema = some "#/definitions/Chart" := by
    decide +kernel
  have leads : ∃ schema, referent? layeredDocument "#/definitions/Chart" = some schema :=
    Option.isSome_iff_exists.mp (by decide +kernel)
  rcases leads with ⟨schema, leads⟩
  rcases visits_referent_iff .root stated leads with ⟨⟨next, found, visits⟩, recorded⟩
  rcases recorded layeredGrammar.nodes layeredGrammar.walked (by decide) with
    ⟨node, member, fullPath, simplePath, _⟩
  exact ⟨⟨next, found, visits.mpr (by decide)⟩, node, member, fullPath, simplePath⟩

def namesakeDocument : Json :=
  .ofMembers [
    ("definitions", .ofMembers [("A", .ofMembers [("type", .string "string")])]),
    ("properties", .ofMembers [
      ("#/definitions/A", .ofMembers [("$ref", .string "#/definitions/A")])])]

/-- The reference below its namesake leads to a type and was never followed, but nothing is visited
behind it: the document has the property for its only node. -/
theorem namesake_hides_referent :
    (∃ site : Site namesakeDocument, site.Visited ∧
      reference? site.schema = some "#/definitions/A" ∧
      (referent? namesakeDocument "#/definitions/A").isSome = true ∧
      site.followed = [] ∧ site.children.toOption.map List.length = some 0) ∧
    (descendants namesakeDocument).toOption.map (List.map (·.pointer)) =
      some ["/properties/#~1definitions~1A"] := by
  have below : ∃ site ∈ (Site.root namesakeDocument).children.toOption.getD [],
      reference? site.schema = some "#/definitions/A" ∧
      (referent? namesakeDocument "#/definitions/A").isSome = true ∧
      site.followed = [] ∧ site.children.toOption.map List.length = some 0 := by
    decide +kernel
  rcases below with ⟨site, member, shows⟩
  exact ⟨⟨site, visited_of_mem_children .root member, shows⟩, by decide +kernel⟩

end Site

end ChartDialogue
