import ChartDialogue.Proofs.Grammar.LoadedNodes
import ChartDialogue.Proofs.Grammar.Traversal
import ChartDialogue.Proofs.Json.PointerText
import ChartDialogue.Resource.Bundle
import Mathlib.Data.List.Forall2

/-! # The pointer of a node leads to its schema

Every hop makes the pointer of a site longer by the tokens that lead to the next schema, or sets it
to that of a reference. So the pointer of a node leads back to the schema that the node was read
from, and no typed node is missing from the dump.
-/

namespace ChartDialogue

namespace Site

variable {document : Json}

def Resolves (site : Site document) : Prop :=
  Pointer.resolve? document site.pointer = some site.schema

theorem resolves_root : (Site.root document).Resolves := rfl

theorem resolves_descend {site : Site document} (resolves : site.Resolves) {schema : Json}
    {hop : Hop} {pointer : String} {inside : schema.Part site.schema} {tokens : List (List Char)}
    (spelled : pointer.toList = Pointer.spell tokens) (plain : ∀ token ∈ tokens, '/' ∉ token)
    (leads : Pointer.resolveTokens site.schema tokens = some schema) :
    (site.descend schema hop pointer inside).Resolves :=
  (Pointer.resolve?_append resolves spelled plain).trans leads

theorem member?_of_found {schema : Json} {keyword : String}
    {value : { value : Json //
      ∃ members, schema = .object members ∧ (keyword, value) ∈ members.toList }}
    (found : member? schema keyword = some value) : schema.member? keyword = some value.1 := by
  rw [← map_val_member?, found]
  rfl

theorem getElem?_of_elements {value : Json} {index : Nat}
    (inRange : index < (elements value).length) :
    (value.asArray?.getD [])[index]? = some ((elements value)[index]).1 := by
  rw [← map_val_elements, List.getElem?_map, List.getElem?_eq_getElem inRange]
  rfl

theorem resolves_member {site : Site document} (resolves : site.Resolves) {key : String}
    {schema : Json} (found : site.schema.member? key = some schema) {hop : Hop} {pointer : String}
    {inside : schema.Part site.schema}
    (spelled : pointer.toList = '/' :: Pointer.escape key.toList) :
    (site.descend schema hop pointer inside).Resolves := by
  have leads : Pointer.resolveTokens site.schema [Pointer.escape key.toList] = some schema := by
    rw [Pointer.resolveTokens, Pointer.step?_escape found]
    rfl
  apply resolves_descend resolves _ _ leads
  · simp [spelled, Pointer.spell]
  · simp [Pointer.slash_notMem_escape]

theorem resolves_below {site : Site document} (resolves : site.Resolves) {keyword : String}
    {value schema : Json} (found : site.schema.member? keyword = some value) {token : List Char}
    (plain : '/' ∉ token) (selected : Pointer.step? value token = some schema) {hop : Hop}
    {pointer : String} {inside : schema.Part site.schema}
    (spelled : pointer.toList = '/' :: Pointer.escape keyword.toList ++ '/' :: token) :
    (site.descend schema hop pointer inside).Resolves := by
  have leads : Pointer.resolveTokens site.schema [Pointer.escape keyword.toList, token] =
      some schema := by
    rw [Pointer.resolveTokens, Pointer.step?_escape found, Option.bind_some,
      Pointer.resolveTokens, selected]
    rfl
  apply resolves_descend resolves _ _ leads
  · simp [spelled, Pointer.spell]
  · simp [Pointer.slash_notMem_escape, plain]

/-! ## Every hop -/

theorem resolves_of_mem_alternatives {site child : Site document} {combinator : Combinator}
    (resolves : site.Resolves) (member : child ∈ site.alternatives combinator) :
    child.Resolves := by
  unfold alternatives at member
  split at member
  · cases member
  · rename_i list found
    obtain ⟨index, inRange, rfl⟩ := List.mem_mapIdx.mp member
    have selected := Pointer.step?_toDigits (getElem?_of_elements inRange)
    apply resolves_below resolves (member?_of_found found)
      (Pointer.slash_notMem_toDigits index) selected
    have own : Pointer.escape combinator.keyword.toList = combinator.keyword.toList := by
      cases combinator <;> decide
    simp [own]

theorem resolves_of_mem_target {site child : Site document} {targets : List (Site document)}
    (found : site.target = .ok targets) (member : child ∈ targets) : child.Resolves := by
  unfold target at found
  split at found
  · cases found; cases member
  · split at found
    · cases found; cases member
    · split at found
      · cases found
      · split at found
        · cases found
        · rename_i led
          cases found
          rw [List.mem_singleton.mp member]
          exact led

theorem resolves_of_mem_itemSites {site child : Site document} (resolves : site.Resolves)
    (member : child ∈ site.itemSites) : child.Resolves := by
  unfold itemSites at member
  split at member
  · cases member
  · rename_i items found
    have stated := member?_of_found found
    split at member
    · obtain ⟨index, inRange, rfl⟩ := List.mem_mapIdx.mp member
      have selected := Pointer.step?_toDigits (getElem?_of_elements inRange)
      apply resolves_below resolves stated (Pointer.slash_notMem_toDigits index) selected
      have front : "/items/".toList = '/' :: Pointer.escape "items".toList ++ ['/'] := by decide
      rw [String.toList_append, front]
      simp
    · rw [List.mem_singleton.mp member]
      exact resolves_member resolves stated rfl

theorem member?_of_mem_entries {value : Json}
    {entry : String × { member : Json // member.Part value }} (inside : entry ∈ entries value) :
    value.member? entry.1 = some entry.2.1 := by
  have listed := List.mem_map_of_mem (f := fun entry => (entry.1, entry.2.1)) inside
  rw [map_val_entries] at listed
  cases value with
  | object members => exact Members.find?_of_mem listed
  | _ => cases listed

theorem resolves_of_mem_propertySites {site child : Site document} (resolves : site.Resolves)
    (member : child ∈ site.propertySites) : child.Resolves := by
  unfold propertySites at member
  split at member
  · cases member
  · rename_i properties found
    obtain ⟨entry, inside, rfl⟩ := List.mem_map.mp member
    have selected := Pointer.step?_escape (member?_of_mem_entries inside)
    apply resolves_below resolves (member?_of_found found)
      (Pointer.slash_notMem_escape entry.1.toList) selected
    have front : "/properties/".toList = '/' :: Pointer.escape "properties".toList ++ ['/'] := by
      decide
    rw [String.toList_append, front]
    simp

theorem resolves_of_mem_children {site child : Site document} {next : List (Site document)}
    (resolves : site.Resolves) (found : site.children = .ok next) (member : child ∈ next) :
    child.Resolves := by
  rcases children_eq_ok found with ⟨targets, target, rfl⟩
  simp only [List.mem_append, List.mem_flatMap] at member
  rcases member with ((⟨combinator, _, member⟩ | member) | member) | member
  · exact resolves_of_mem_alternatives resolves member
  · exact resolves_of_mem_target target member
  · exact resolves_of_mem_itemSites resolves member
  · exact resolves_of_mem_propertySites resolves member

theorem Visited.resolves {site : Site document} (visited : site.Visited) : site.Resolves := by
  induction visited with
  | root => exact resolves_root
  | child _ found member induction => exact resolves_of_mem_children induction found member

end Site

/-! ## What a node was read from -/

inductive Declares (schema : Json) : List DeclaredType → Prop
  | nothing (absent : schema.member? "type" = none) : Declares schema [.untyped]
  | one {declared : DeclaredType} (real : declared ≠ .untyped)
      (stated : schema.member? "type" = some (.string declared.name)) : Declares schema [declared]
  | several {types : List DeclaredType} (nonempty : types ≠ [])
      (real : DeclaredType.untyped ∉ types)
      (stated : schema.member? "type" =
        some (.array (types.map fun declared => .string declared.name))) : Declares schema types

structure SchemaNode.ReadFrom (node : SchemaNode) (schema : Json) : Prop where
  types : Declares schema node.types
  literals : node.enumeration = Site.literals? schema
  typed : node.typed = true ↔ ∃ value, schema.member? "type" = some value

theorem DeclaredType.name_of_ofName? {name : String} {declared : DeclaredType}
    (known : ofName? name = some declared) : declared.name = name := by
  unfold ofName? at known
  split at known <;> first | cases known; rfl | cases known

namespace Site

variable {document : Json} {site : Site document}

theorem name_of_readType {name : String} {declared : DeclaredType}
    (read : site.readType name = .ok declared) : declared.name = name := by
  unfold readType at read
  split at read
  · cases read
    exact DeclaredType.name_of_ofName? ‹_›
  · cases read

theorem eq_map_of_mapM_readListedType : {names : List Json} → {types : List DeclaredType} →
    names.mapM site.readListedType = .ok types →
      names = types.map fun declared => .string declared.name
  | [], _, read => by cases read; rfl
  | name :: names, types, read => by
    rw [List.mapM_cons] at read
    cases first : site.readListedType name with
    | error fault => rw [first] at read; cases read
    | ok declared =>
      cases others : names.mapM site.readListedType with
      | error fault => rw [first, others] at read; cases read
      | ok rest =>
        rw [first, others] at read
        cases read
        rw [List.map_cons, eq_map_of_mapM_readListedType others]
        cases name with
        | string text => rw [name_of_readType first]
        | _ => cases first

theorem declares_of_declaredTypes {types : List DeclaredType}
    (read : site.declaredTypes = .ok types) : Declares site.schema types := by
  cases stated : site.schema.member? "type" with
  | none =>
    rw [declaredTypes, stated] at read
    cases read
    exact .nothing stated
  | some value =>
    have real := types_of_typed stated read
    rw [declaredTypes, stated] at read
    split at read
    · cases ‹some value = none›
    · rename_i name isName
      cases isName
      cases named : site.readType name with
      | error fault => rw [named] at read; cases read
      | ok declared =>
        rw [named] at read
        cases read
        exact .one (ne_untyped_of_readType named) (by rw [stated, name_of_readType named])
    · cases read
    · rename_i names _ isList
      cases isList
      exact .several real.1 real.2 (by rw [stated, eq_map_of_mapM_readListedType read])
    · cases read

theorem pointer_of_node {node : SchemaNode} (read : site.node = .ok node) :
    node.pointer = site.pointer := by
  unfold Site.node at read
  cases types : site.declaredTypes with
  | error fault => rw [types] at read; cases read
  | ok declared => rw [types] at read; cases read; rfl

theorem readFrom_of_node {node : SchemaNode} (read : site.node = .ok node) :
    node.ReadFrom site.schema := by
  unfold Site.node at read
  cases types : site.declaredTypes with
  | error fault => rw [types] at read; cases read
  | ok declared =>
    rw [types] at read
    cases read
    exact ⟨declares_of_declaredTypes types, rfl, Option.isSome_iff_exists⟩

end Site

/-! ## Back from a node -/

theorem Grammar.exists_raw_of_mem (grammar : Grammar) {node : SchemaNode}
    (member : node ∈ grammar.nodes) :
    ∃ site : Site grammar.document, site.Visited ∧ site.node = .ok node ∧
      grammar.raw node = some site.schema := by
  rcases exists_site_of_mem_descendants grammar.walked member with ⟨site, visited, read⟩
  refine ⟨site, visited, read, ?_⟩
  rw [Grammar.raw, Site.pointer_of_node read]
  exact visited.resolves

def Grammar.enumerated? (grammar : Grammar) (node : SchemaNode) : Option (List Json) :=
  (grammar.raw node).bind fun schema => (schema.member? "enum").bind Json.asArray?

theorem Grammar.enumeration_of_mem (grammar : Grammar) {node : SchemaNode}
    (member : node ∈ grammar.nodes) :
    node.enumeration = (grammar.enumerated? node).map fun members =>
      StringSet.ofList (members.map Site.literalText) := by
  rcases grammar.exists_raw_of_mem member with ⟨site, _, read, raw⟩
  rw [(Site.readFrom_of_node read).literals, Grammar.enumerated?, raw]
  rfl

theorem forall₂_filterMap {α β : Type} {find : α → Option β} : {list : List α} →
    (∀ value ∈ list, (find value).isSome = true) →
      List.Forall₂ (fun value found => find value = some found) list (list.filterMap find)
  | [], _ => .nil
  | value :: rest, total => by
    rcases Option.isSome_iff_exists.mp (total value List.mem_cons_self) with ⟨found, equal⟩
    rw [List.filterMap_cons_some equal]
    have restTotal : ∀ other ∈ rest, (find other).isSome = true := fun other member =>
      total other (List.mem_cons_of_mem value member)
    exact .cons equal (forall₂_filterMap restTotal)

/-- The pointer of a node leads to the schema that it was read from, which has the types, the
literals and the mark of the node. The dump has one schema for each typed node, in the order of the
nodes. -/
theorem Resources.raw_of_nodes (resources : Resources) :
    let grammar := resources.grammar
    (∀ node ∈ grammar.nodes, ∃ site : Site grammar.document,
      site.Visited ∧ site.node = .ok node ∧
        grammar.raw node = some site.schema ∧ node.ReadFrom site.schema) ∧
    ∃ schemas, resources.dumpFiles.lookup "vegaResource.nodes.json" = some (.array schemas) ∧
      List.Forall₂ (fun node schema => grammar.raw node = some schema) grammar.typedNodes
        schemas := by
  intro grammar
  constructor
  · intro node member
    rcases grammar.exists_raw_of_mem member with ⟨site, visited, read, raw⟩
    exact ⟨site, visited, read, raw, Site.readFrom_of_node read⟩
  · refine ⟨grammar.typedNodes.filterMap grammar.raw, rfl, forall₂_filterMap ?_⟩
    intro node member
    rcases grammar.exists_raw_of_mem (List.mem_filter.mp member).1 with ⟨site, _, _, raw⟩
    rw [raw]
    rfl

/-- A reference whose key has a slash, below a key with a tilde, and list items behind it. -/
def windingDocument : Json :=
  .ofMembers [
    ("definitions", .ofMembers [("a/b", .ofMembers [
      ("items", .array [.ofMembers [("type", .string "number")]])])]),
    ("properties", .ofMembers [("x~y", .ofMembers [
      ("anyOf", .array [.ofMembers [("$ref", .string "#/definitions/a~1b")]])])])]

def windingGrammar : Grammar where
  document := windingDocument
  nodes := (descendants windingDocument).toOption.getD []
  walked := by decide +kernel

/-- The items behind the reference lead back to the number, which is all that the dump has. -/
theorem raw_of_item_behind_reference :
    let resources := Resources.build windingGrammar StringSet.empty {}
    (∃ node ∈ windingGrammar.nodes,
      node.fullPath = ["x~y", "anyOf[0]", "#/definitions/a~1b", "items[0]"] ∧
      ∃ schema, windingGrammar.raw node = some schema ∧ node.ReadFrom schema) ∧
    ∃ schemas, resources.dumpFiles.lookup "vegaResource.nodes.json" = some (.array schemas) ∧
      schemas.length = 1 := by
  intro resources
  have leads := resources.raw_of_nodes
  have found : ∃ node ∈ windingGrammar.nodes,
      node.fullPath = ["x~y", "anyOf[0]", "#/definitions/a~1b", "items[0]"] := by
    decide +kernel
  rcases found with ⟨node, member, way⟩
  rcases leads.1 node member with ⟨site, _, _, raw, readFrom⟩
  rcases leads.2 with ⟨schemas, dumped, each⟩
  refine ⟨⟨node, member, way, site.schema, raw, readFrom⟩, schemas, dumped, ?_⟩
  rw [← each.length_eq]
  decide +kernel

end ChartDialogue
