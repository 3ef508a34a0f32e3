import ChartDialogue.Grammar.Preorder
import ChartDialogue.Grammar.Walk
import Mathlib.Data.List.Basic

/-! # The walk is a traversal

A traversal goes from a site to its children, and comes to the next site when everything below the
one before is done. The walk with its stack finds the nodes that the traversal finds, in the same
order, or fails with the same fault.
-/

namespace ChartDialogue

structure Place where
  schema : Json
  pointer : String
  hops : List Hop
  simplePath : SimplePath

namespace Place

def after (place : Place) (hop : Hop) (schema : Json) (pointer : String) : Place where
  schema := schema
  pointer := pointer
  hops := place.hops ++ [hop]
  simplePath := match hop with
    | .property key => place.simplePath.child key
    | _ => place.simplePath

def alternatives (place : Place) (combinator : Combinator) : List Place :=
  (((place.schema.member? combinator.keyword).bind Json.asArray?).getD []).mapIdx
    fun index schema => place.after (.member combinator index) schema
      (place.pointer ++ ("/" ++ combinator.keyword ++ "/" ++ toString index))

/-- A reference leads to one place, unless its text is that of a hop on the way. -/
def target (document : Json) (place : Place) : Except GrammarFault (List Place) :=
  match (place.schema.member? "$ref").bind Json.asString? with
  | none => .ok []
  | some reference =>
    if reference ∈ place.hops.map Hop.text then .ok []
    else match Site.localPointer? reference with
      | none => .error (.nonLocalReference reference)
      | some pointer =>
        match Pointer.resolve? document pointer with
        | none => .error (.unresolvableReference reference)
        | some schema => .ok [place.after (.reference reference) schema pointer]

def items (place : Place) : List Place :=
  match place.schema.member? "items" with
  | none => []
  | some (.array schemas) => schemas.mapIdx fun index schema =>
    place.after (.item index) schema (place.pointer ++ ("/items/" ++ toString index))
  | some schema => [place.after .items schema (place.pointer ++ "/items")]

def properties (place : Place) : List Place :=
  let entries := ((place.schema.member? "properties").bind Json.asObject?).elim [] Members.toList
  (entries.mergeSort fun left right => left.1 ≤ right.1).map fun entry =>
    place.after (.property entry.1) entry.2
      (place.pointer ++ ("/properties/" ++ String.ofList (Pointer.escape entry.1.toList)))

/-- Alternatives and parts, then the target of the reference, then items, then properties. -/
def children (document : Json) (place : Place) : Except GrammarFault (List Place) := do
  let target ← place.target document
  return place.alternatives .anyOf ++ place.alternatives .oneOf ++ place.alternatives .allOf ++
    target ++ place.items ++ place.properties

end Place

namespace Site

variable {document : Json}

def place (site : Site document) : Place := ⟨site.schema, site.pointer, site.hops, site.simplePath⟩

/-! ## Traversals -/

mutual
/-- What comes of a traversal from a site: its children are found, its own node is recorded unless
the traversal started there, and then those of its children. -/
inductive Traverses : Site document → Except GrammarFault (List SchemaNode) → Prop
  | lost {site : Site document} {fault : GrammarFault}
      (children : site.place.children document = .error fault) : Traverses site (.error fault)
  | unread {site : Site document} {next : List (Site document)} {fault : GrammarFault}
      (children : site.place.children document = .ok (next.map place))
      (entered : site.hops ≠ []) (unreadable : site.node = .error fault) :
      Traverses site (.error fault)
  | origin {site : Site document} {next : List (Site document)}
      {outcome : Except GrammarFault (List SchemaNode)}
      (children : site.place.children document = .ok (next.map place))
      (start : site.hops = []) (below : TraversesAll next outcome) : Traverses site outcome
  | onward {site : Site document} {next : List (Site document)} {node : SchemaNode}
      {outcome : Except GrammarFault (List SchemaNode)}
      (children : site.place.children document = .ok (next.map place))
      (entered : site.hops ≠ []) (readable : site.node = .ok node)
      (below : TraversesAll next outcome) : Traverses site (outcome.map (node :: ·))

inductive TraversesAll : List (Site document) → Except GrammarFault (List SchemaNode) → Prop
  | done : TraversesAll [] (.ok [])
  | stopped {site : Site document} {rest : List (Site document)} {fault : GrammarFault}
      (first : Traverses site (.error fault)) : TraversesAll (site :: rest) (.error fault)
  | onward {site : Site document} {rest : List (Site document)} {nodes : List SchemaNode}
      {outcome : Except GrammarFault (List SchemaNode)}
      (first : Traverses site (.ok nodes)) (others : TraversesAll rest outcome) :
      TraversesAll (site :: rest) (outcome.map (nodes ++ ·))
end

/-! ## Children as places -/

theorem place_injective : Function.Injective (place : Site document → Place) := by
  intro left right equal
  cases left
  cases right
  simp only [place, Place.mk.injEq] at equal
  obtain ⟨rfl, rfl, rfl, rfl⟩ := equal
  rfl

theorem map_val_member? (schema : Json) (keyword : String) :
    (member? schema keyword).map (·.1) = schema.member? keyword := by
  unfold member?
  split
  · rename_i members
    split
    · rename_i value found
      exact found.symm
    · rename_i found
      exact found.symm
  · rename_i other
    cases schema with
    | object members => exact absurd rfl (other members)
    | _ => rfl

theorem map_val_elements (value : Json) :
    (elements value).map (·.1) = value.asArray?.getD [] := by
  cases value with
  | array schemas => simp [elements, Json.asArray?]
  | _ => rfl

theorem map_place_mapIdx {value : Json} {make : Nat → { element : Json // element.Part value } →
      Site document} {plain : Nat → Json → Place}
    (agree : ∀ index element, (make index element).place = plain index element.1) :
    ((elements value).mapIdx make).map place = (value.asArray?.getD []).mapIdx plain := by
  rw [← map_val_elements]
  apply List.ext_getElem?
  intro index
  cases found : (elements value)[index]? <;> simp [found, agree]

theorem place_descend (site : Site document) (schema : Json) (hop : Hop) (pointer : String)
    (inside : schema.Part site.schema) :
    (site.descend schema hop pointer inside).place =
      site.place.after hop schema (site.pointer ++ pointer) :=
  rfl

theorem map_place_alternatives (site : Site document) (combinator : Combinator) :
    (site.alternatives combinator).map place = site.place.alternatives combinator := by
  have found := map_val_member? site.schema combinator.keyword
  unfold alternatives Place.alternatives
  cases member : member? site.schema combinator.keyword with
  | none =>
    rw [member] at found
    simp [place, ← found]
  | some list =>
    rw [member] at found
    simp only [place, ← found, Option.map_some, Option.bind_some]
    exact map_place_mapIdx fun index element => place_descend site _ _ _ _

theorem map_place_target (site : Site document) :
    site.target.map (List.map place) = site.place.target document := by
  have same : site.place.hops.map Hop.text = site.fullPath := rfl
  unfold target Place.target
  rw [same]
  change Except.map _ _ = match reference? site.schema with
    | none => _
    | some reference => _
  cases reference? site.schema with
  | none => rfl
  | some reference =>
    by_cases known : reference ∈ site.fullPath
    · simp only [if_pos known]
      rfl
    · simp only [if_neg known]
      cases localPointer? reference with
      | none => rfl
      | some pointer =>
        dsimp only
        split
        · rename_i lost
          rw [lost]
          rfl
        · rename_i schema found
          simp only [found]
          rfl

theorem map_place_itemSites (site : Site document) :
    site.itemSites.map place = site.place.items := by
  have found := map_val_member? site.schema "items"
  unfold itemSites Place.items
  cases member : member? site.schema "items" with
  | none =>
    rw [member] at found
    simp [place, ← found]
  | some items =>
    rw [member] at found
    rcases items with ⟨value, inside⟩
    simp only [place, ← found, Option.map_some]
    cases value with
    | array schemas => exact map_place_mapIdx fun index element => place_descend site _ _ _ _
    | _ => rfl

theorem map_val_entries (value : Json) :
    (entries value).map (fun entry => (entry.1, entry.2.1)) =
      value.asObject?.elim [] Members.toList := by
  cases value with
  | object members =>
    rw [entries, List.map_map]
    exact List.attach_map_subtype_val members.toList
  | _ => rfl

theorem mergeSort_members (value : Json) :
    ((value.asObject?.elim [] Members.toList).mergeSort fun left right => left.1 ≤ right.1) =
      value.asObject?.elim [] Members.toList := by
  apply List.mergeSort_of_pairwise
  cases value with
  | object members =>
    apply members.ascending_toList.imp
    intro left right before
    apply decide_eq_true
    apply String.not_lt.mp
    intro after
    exact String.lt_irrefl _ (String.lt_trans before after)
  | _ => exact List.Pairwise.nil

theorem map_place_propertySites (site : Site document) :
    site.propertySites.map place = site.place.properties := by
  have found := map_val_member? site.schema "properties"
  unfold propertySites Place.properties
  cases member : member? site.schema "properties" with
  | none =>
    rw [member] at found
    simp [place, ← found]
  | some properties =>
    rw [member] at found
    rcases properties with ⟨value, inside⟩
    simp only [place, ← found, Option.map_some, Option.bind_some]
    rw [mergeSort_members, ← map_val_entries, List.map_map, List.map_map]
    rfl

theorem map_place_children (site : Site document) :
    site.children.map (List.map place) = site.place.children document := by
  unfold children Place.children
  rw [← map_place_target]
  cases site.target with
  | error fault => rfl
  | ok targets =>
    simp [Except.map, bind, Except.bind, pure, Except.pure, Combinator.all, map_place_alternatives,
      map_place_itemSites, map_place_propertySites]

/-! ## The walk and the recursion -/

theorem preorder_of_lost {site : Site document} {fault : GrammarFault}
    (lost : site.children = .error fault) : site.preorder = .error fault := by
  rw [preorder]
  split
  · rename_i other failed
    rw [lost] at failed
    cases failed
    rfl
  · rename_i next found
    rw [lost] at found
    cases found

theorem preorder_of_children {site : Site document} {next : List (Site document)}
    (found : site.children = .ok next) :
    site.preorder = do
      let own ← site.ownNodes
      let below ← next.mapM preorder
      return own ++ below.flatten := by
  rw [preorder]
  split
  · rename_i fault failed
    rw [found] at failed
    cases failed
  · rename_i other ok
    rw [found] at ok
    cases ok
    have plain : next.attach.mapM (fun child => preorder child.1) =
        next.attach.unattach.mapM preorder := List.mapM_subtype fun _ _ => rfl
    rw [plain, List.unattach_attach]

theorem ownNodes_of_start {site : Site document} (start : site.hops = []) :
    site.ownNodes = .ok [] := by
  rw [ownNodes, start]
  rfl

theorem ownNodes_of_entered {site : Site document} (entered : site.hops ≠ []) :
    site.ownNodes = site.node.map fun node => [node] := by
  rw [ownNodes, if_neg (by simpa using entered)]
  rfl

theorem reverse_of_ownNodes {site : Site document} {own : List SchemaNode}
    (readable : site.ownNodes = .ok own) : own.reverse = own := by
  rcases eq_or_ne site.hops [] with start | entered
  · rw [ownNodes_of_start start] at readable
    cases readable
    rfl
  · rw [ownNodes_of_entered entered] at readable
    cases read : site.node with
    | error fault =>
      rw [read] at readable
      cases readable
    | ok node =>
      rw [read] at readable
      cases readable
      rfl

theorem walk_eq (recorded : List SchemaNode) (stack : List (Site document)) :
    walk recorded stack = do
      let below ← stack.mapM preorder
      return recorded.reverse ++ below.flatten := by
  fun_induction walk recorded stack with
  | case1 recorded => simp [bind, Except.bind, pure, Except.pure]
  | case2 recorded site rest fault lost =>
    rw [List.mapM_cons, preorder_of_lost lost]
    rfl
  | case3 recorded site rest next found fault unreadable =>
    rw [List.mapM_cons, preorder_of_children found, unreadable]
    rfl
  | case4 recorded site rest next found own readable induction =>
    -- The children are on top of the rest, so what is found below a site comes before it.
    rw [induction, List.mapM_append, List.mapM_cons, preorder_of_children found, readable]
    have order := reverse_of_ownNodes readable
    cases next.mapM preorder with
    | error fault => rfl
    | ok below =>
      cases rest.mapM preorder with
      | error fault => rfl
      | ok others =>
        simp [bind, Except.bind, pure, Except.pure, order]

theorem descendants_eq_preorder (document : Json) :
    descendants document = (Site.root document).preorder := by
  rw [descendants, walk_eq, List.mapM_cons]
  cases (Site.root document).preorder with
  | error fault => rfl
  | ok nodes => simp [bind, Except.bind, pure, Except.pure]

/-! ## The recursion and the traversal -/

theorem children_of_place {site : Site document} {next : List (Site document)}
    (found : site.place.children document = .ok (next.map place)) : site.children = .ok next := by
  rw [← map_place_children] at found
  cases children : site.children with
  | error fault =>
    rw [children] at found
    cases found
  | ok other =>
    rw [children] at found
    have equal : other.map place = next.map place := Except.ok.inj found
    rw [List.map_injective_iff.mpr place_injective equal]

theorem lost_of_place {site : Site document} {fault : GrammarFault}
    (lost : site.place.children document = .error fault) : site.children = .error fault := by
  rw [← map_place_children] at lost
  cases children : site.children with
  | error other =>
    rw [children] at lost
    cases lost
    rfl
  | ok next =>
    rw [children] at lost
    cases lost

mutual
theorem preorder_of_traverses {site : Site document}
    {outcome : Except GrammarFault (List SchemaNode)} :
    Traverses site outcome → site.preorder = outcome
  | .lost children => preorder_of_lost (lost_of_place children)
  | .unread children entered unreadable => by
    rw [preorder_of_children (children_of_place children), ownNodes_of_entered entered, unreadable]
    rfl
  | @Traverses.origin _ _ next _ children start below => by
    rw [preorder_of_children (children_of_place children), ownNodes_of_start start,
      ← mapM_preorder_of_traversesAll below]
    cases next.mapM preorder <;> rfl
  | @Traverses.onward _ _ next _ _ children entered readable below => by
    rw [preorder_of_children (children_of_place children), ownNodes_of_entered entered, readable,
      ← mapM_preorder_of_traversesAll below]
    cases next.mapM preorder <;> rfl

theorem mapM_preorder_of_traversesAll {sites : List (Site document)}
    {outcome : Except GrammarFault (List SchemaNode)} :
    TraversesAll sites outcome → (sites.mapM preorder).map List.flatten = outcome
  | .done => rfl
  | .stopped first => by
    rw [List.mapM_cons, preorder_of_traverses first]
    rfl
  | @TraversesAll.onward _ _ rest _ _ first others => by
    rw [List.mapM_cons, preorder_of_traverses first, ← mapM_preorder_of_traversesAll others]
    cases rest.mapM preorder <;> rfl
end

theorem traversesAll_mapM_preorder {sites : List (Site document)}
    (each : ∀ site ∈ sites, Traverses site site.preorder) :
    TraversesAll sites ((sites.mapM preorder).map List.flatten) := by
  induction sites with
  | nil => exact .done
  | cons site rest induction =>
    have first := each site List.mem_cons_self
    have others := induction fun other member => each other (List.mem_cons_of_mem site member)
    rw [List.mapM_cons]
    cases outcome : site.preorder with
    | error fault =>
      rw [outcome] at first
      exact .stopped first
    | ok nodes =>
      rw [outcome] at first
      have onward := TraversesAll.onward first others
      cases below : rest.mapM preorder <;> rw [below] at onward <;> exact onward

theorem traverses_preorder (site : Site document) : Traverses site site.preorder := by
  have places := map_place_children site
  cases children : site.children with
  | error fault =>
    rw [children] at places
    rw [preorder_of_lost children]
    exact .lost places.symm
  | ok next =>
    rw [children] at places
    have each : ∀ child ∈ next, Traverses child child.preorder := fun child member =>
      traverses_preorder child
    have below := traversesAll_mapM_preorder each
    rw [preorder_of_children children]
    rcases eq_or_ne site.hops [] with start | entered
    · rw [ownNodes_of_start start]
      have here := Traverses.origin places.symm start below
      cases found : next.mapM preorder <;> rw [found] at here <;> exact here
    · rw [ownNodes_of_entered entered]
      cases readable : site.node with
      | error fault => exact .unread places.symm entered readable
      | ok node =>
        have here := Traverses.onward places.symm entered readable below
        cases found : next.mapM preorder <;> rw [found] at here <;> exact here
termination_by site.rank
decreasing_by exact rank_lt_of_mem_children children member

/-- The walk through a document comes to what the traversal from its root comes to, be it nodes or
a fault. -/
theorem traverses_root_iff (document : Json) (outcome : Except GrammarFault (List SchemaNode)) :
    (Site.root document).Traverses outcome ↔ descendants document = outcome := by
  rw [descendants_eq_preorder]
  constructor
  · exact preorder_of_traverses
  · intro equal
    rw [← equal]
    exact traverses_preorder (Site.root document)

end Site

end ChartDialogue
