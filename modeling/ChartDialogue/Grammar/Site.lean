import ChartDialogue.Collection.Distinct
import ChartDialogue.Grammar.Fault
import ChartDialogue.Grammar.Node
import ChartDialogue.Json.Pointer
import ChartDialogue.Json.Printer

/-! # Sites of a schema document

A site is a schema inside a document together with the way it was reached. Its children lie one
hop further: the members of its combinators, the target of its reference, its items and its
properties. A reference that is on the way already is not followed again, so every hop either goes
down inside the document or uses up a reference: the rank of a site falls with every hop.
-/

namespace ChartDialogue

inductive Combinator where
  | anyOf
  | oneOf
  | allOf
deriving DecidableEq, Repr

namespace Combinator

def all : List Combinator := [anyOf, oneOf, allOf]

def keyword : Combinator → String
  | anyOf => "anyOf"
  | oneOf => "oneOf"
  | allOf => "allOf"

end Combinator

inductive Hop where
  | member (combinator : Combinator) (index : Nat)
  | reference (text : String)
  | item (index : Nat)
  | items
  | property (key : String)
deriving DecidableEq, Repr

def Hop.text : Hop → String
  | .member combinator index => combinator.keyword ++ "[" ++ toString index ++ "]"
  | .reference text => text
  | .item index => "items[" ++ toString index ++ "]"
  | .items => "items"
  | .property key => key

/-- A schema inside a document and the way to it. -/
structure Site (document : Json) where
  schema : Json
  pointer : String
  hops : List Hop
  simplePath : SimplePath
  inside : schema.Part document

namespace Site

variable {document : Json}

def root (document : Json) : Site document := ⟨document, "", [], .root, .self⟩

def fullPath (site : Site document) : List String := site.hops.map Hop.text

/-! ## Children -/

def descend (site : Site document) (schema : Json) (hop : Hop) (pointer : String)
    (inside : schema.Part site.schema) : Site document where
  schema := schema
  pointer := site.pointer ++ pointer
  hops := site.hops ++ [hop]
  simplePath := match hop with
    | .property key => site.simplePath.child key
    | _ => site.simplePath
  inside := inside.trans site.inside

/-- The member of a schema under a keyword, with the proof that it lies inside. -/
def member? (schema : Json) (keyword : String) :
    Option { value : Json //
      ∃ members, schema = .object members ∧ (keyword, value) ∈ members.toList } :=
  match schema with
  | .object members =>
    match found : members.find? keyword with
    | some value => some ⟨value, members, rfl, Members.mem_toList_of_find? found⟩
    | none => none
  | _ => none

theorem part_of_member {schema value : Json} {keyword : String}
    (member : ∃ members, schema = .object members ∧ (keyword, value) ∈ members.toList) :
    value.Part schema := by
  obtain ⟨members, rfl, member⟩ := member
  exact .member member .self

def elements (value : Json) : List { element : Json // element.Part value } :=
  match value with
  | .array elements => elements.attach.map fun element => ⟨element.1, .element element.2 .self⟩
  | _ => []

def entries (value : Json) : List (String × { member : Json // member.Part value }) :=
  match value with
  | .object members =>
    members.toList.attach.map fun entry => (entry.1.1, ⟨entry.1.2, .member entry.2 .self⟩)
  | _ => []

def alternatives (site : Site document) (combinator : Combinator) : List (Site document) :=
  match member? site.schema combinator.keyword with
  | none => []
  | some list =>
    (elements list.1).mapIdx fun index element =>
      site.descend element.1 (.member combinator index)
        ("/" ++ combinator.keyword ++ "/" ++ toString index)
        (element.2.trans (part_of_member list.2))

def localPointer? (reference : String) : Option String :=
  match reference.toList with
  | '#' :: rest => some (String.ofList rest)
  | _ => none

def reference? (schema : Json) : Option String := (schema.member? "$ref").bind Json.asString?

/-- The target of the reference, unless the reference is on the way already. -/
def target (site : Site document) : Except GrammarFault (List (Site document)) :=
  match reference? site.schema with
  | none => .ok []
  | some reference =>
    if reference ∈ site.fullPath then .ok []
    else match localPointer? reference with
      | none => .error (.nonLocalReference reference)
      | some pointer =>
        match found : Pointer.resolve? document pointer with
        | none => .error (.unresolvableReference reference)
        | some schema => .ok [{
            schema := schema
            pointer := pointer
            hops := site.hops ++ [.reference reference]
            simplePath := site.simplePath
            inside := Pointer.part_of_resolve? found }]

/-- The schemas of list items: one for each position, or one for all. -/
def itemSites (site : Site document) : List (Site document) :=
  match member? site.schema "items" with
  | none => []
  | some items =>
    match items.1.asArray? with
    | some _ =>
      (elements items.1).mapIdx fun index element =>
        site.descend element.1 (.item index) ("/items/" ++ toString index)
          (element.2.trans (part_of_member items.2))
    | none => [site.descend items.1 .items "/items" (part_of_member items.2)]

def propertySites (site : Site document) : List (Site document) :=
  match member? site.schema "properties" with
  | none => []
  | some properties =>
    (entries properties.1).map fun entry =>
      site.descend entry.2.1 (.property entry.1)
        ("/properties/" ++ String.ofList (Pointer.escape entry.1.toList))
        (entry.2.2.trans (part_of_member properties.2))

def children (site : Site document) : Except GrammarFault (List (Site document)) := do
  let target ← site.target
  return Combinator.all.flatMap site.alternatives ++ target ++ site.itemSites ++
    site.propertySites

/-! ## Nodes -/

/-- Strings stand for themselves, other values for their compact text. -/
def literalText : Json → String
  | .string text => text
  | other => other.compact

def readType (site : Site document) (name : String) : Except GrammarFault DeclaredType :=
  match DeclaredType.ofName? name with
  | some declared => .ok declared
  | none => .error (.unknownType name site.fullPath)

def readListedType (site : Site document) : Json → Except GrammarFault DeclaredType
  | .string name => site.readType name
  | _ => .error (.unreadableType site.fullPath)

def declaredTypes (site : Site document) : Except GrammarFault (List DeclaredType) :=
  match site.schema.member? "type" with
  | none => .ok [.untyped]
  | some (.string name) => (fun declared => [declared]) <$> site.readType name
  | some (.array []) => .error (.unreadableType site.fullPath)
  | some (.array names) => names.mapM site.readListedType
  | some _ => .error (.unreadableType site.fullPath)

def literals? (schema : Json) : Option StringSet :=
  ((schema.member? "enum").bind Json.asArray?).map fun values =>
    StringSet.ofList (values.map literalText)

def node (site : Site document) : Except GrammarFault SchemaNode := do
  let types ← site.declaredTypes
  return {
    types
    enumeration := literals? site.schema
    simplePath := site.simplePath
    fullPath := site.fullPath
    pointer := site.pointer
    typed := (site.schema.member? "type").isSome }

/-- What a site adds to the nodes of the grammar: the root adds nothing. -/
def ownNodes (site : Site document) : Except GrammarFault (List SchemaNode) :=
  if site.hops.isEmpty then .ok [] else (fun node => [node]) <$> site.node

end Site

end ChartDialogue
