import ChartDialogue.Collection.Distinct
import ChartDialogue.Grammar.Node

/-! # The index of simple paths

Nodes whose path meets an excluded segment are dropped. The paths of the typed nodes that remain
are listed in the order of their discovery. A path that only untyped nodes have is not listed, but
still leads to those nodes.
-/

namespace ChartDialogue

structure PathGroup where
  path : SimplePath
  positions : List Nat
deriving DecidableEq

namespace PathGroup

def add (path : SimplePath) (position : Nat) : List PathGroup → List PathGroup
  | [] => [⟨path, [position]⟩]
  | group :: rest =>
    if group.path = path then ⟨path, group.positions ++ [position]⟩ :: rest
    else group :: add path position rest

def ofNumbered (numbered : List (SchemaNode × Nat)) : List PathGroup :=
  numbered.foldl (fun groups entry => add entry.1.simplePath entry.2 groups) []

def positions? (groups : List PathGroup) (path : SimplePath) : Option (List Nat) :=
  (groups.find? fun group => group.path = path).map (·.positions)

end PathGroup

structure PathIndex where
  /-- The nodes that are not excluded, in discovery order. -/
  nodes : Array SchemaNode
  /-- The listed paths with the positions of their typed nodes. -/
  listed : List PathGroup
  untypedOnly : List PathGroup
  /-- The number of typed paths before exclusion. -/
  unfilteredCount : Nat

namespace PathIndex

def build (nodes : List SchemaNode) (excluded : String → Bool) : PathIndex :=
  let admitted := nodes.filter fun node => ¬ node.simplePath.meets excluded
  let numbered := admitted.zipIdx
  let listed := PathGroup.ofNumbered (numbered.filter fun entry => entry.1.typed)
  let untyped := PathGroup.ofNumbered (numbered.filter fun entry => ¬ entry.1.typed)
  { nodes := admitted.toArray
    listed
    untypedOnly := untyped.filter fun group => group.path ∉ listed.map (·.path)
    unfilteredCount := (distinct ((nodes.filter (·.typed)).map (·.simplePath))).length }

def paths (index : PathIndex) : List SimplePath := index.listed.map (·.path)

def size (index : PathIndex) : Nat := index.listed.length
def isEmpty (index : PathIndex) : Bool := index.listed.isEmpty
def contains (index : PathIndex) (path : SimplePath) : Bool := index.paths.contains path

def path? (index : PathIndex) (position : Nat) : Option SimplePath := index.paths[position]?

def positions? (index : PathIndex) (path : SimplePath) : Option (List Nat) :=
  PathGroup.positions? (index.listed ++ index.untypedOnly) path

def nodesAt (index : PathIndex) (positions : List Nat) : List SchemaNode :=
  positions.filterMap fun position => index.nodes[position]?

/-- The nodes a query can mean: those with exactly this path, else those whose path ends with it.
The empty query means nothing. -/
def schemas (index : PathIndex) (query : List String) : List SchemaNode :=
  if query.isEmpty then []
  else match index.positions? ⟨query⟩ with
    | some positions => index.nodesAt positions
    | none =>
      ((index.listed ++ index.untypedOnly).filter (·.path.endsWith query)).flatMap fun group =>
        index.nodesAt group.positions

end PathIndex

end ChartDialogue
