import ChartDialogue.Grammar.Node

/-! # The index of enumeration literals

Which types accept a literal, and under which paths it occurs. Of each node only the first declared
type counts.
-/

namespace ChartDialogue

structure LiteralUse where
  types : List DeclaredType
  paths : List SimplePath
deriving DecidableEq

namespace LiteralUse

def none : LiteralUse := ⟨[], []⟩

def addNew {α : Type} [DecidableEq α] (value : α) (values : List α) : List α :=
  if value ∈ values then values else values ++ [value]

def add (use : LiteralUse) (declared : DeclaredType) (path : SimplePath) : LiteralUse :=
  ⟨addNew declared use.types, addNew path use.paths⟩

end LiteralUse

structure EnumIndex where
  uses : StringMap LiteralUse

namespace EnumIndex

def empty : EnumIndex := ⟨StringMap.empty⟩

def note (declared : DeclaredType) (path : SimplePath) (index : EnumIndex) (literal : String) :
    EnumIndex :=
  let use := (index.uses.find? literal).getD LiteralUse.none
  ⟨index.uses.insert literal (use.add declared path)⟩

def addNode (index : EnumIndex) (node : SchemaNode) : EnumIndex :=
  match node.enumeration, node.types.head? with
  | some literals, some declared => literals.toList.foldl (note declared node.simplePath) index
  | _, _ => index

def build (nodes : List SchemaNode) : EnumIndex := nodes.foldl addNode empty

def types? (index : EnumIndex) (literal : String) : Option (List DeclaredType) :=
  (index.uses.find? literal).map fun use => DeclaredType.all.filter (· ∈ use.types)

def paths? (index : EnumIndex) (literal : String) : Option (List SimplePath) :=
  (index.uses.find? literal).map fun use => SimplePath.sort use.paths

def literals (index : EnumIndex) : List String := index.uses.keys

def size (index : EnumIndex) : Nat := index.uses.size
def isEmpty (index : EnumIndex) : Bool := index.uses.isEmpty

end EnumIndex

end ChartDialogue
