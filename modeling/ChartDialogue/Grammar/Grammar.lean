import ChartDialogue.Grammar.Walk

/-! # Grammars

A schema document together with the nodes found in it.
-/

namespace ChartDialogue

structure Grammar where
  document : Json
  nodes : List SchemaNode
  walked : descendants document = .ok nodes

namespace Grammar

def ofDocument (document : Json) : Except GrammarFault Grammar :=
  match walked : descendants document with
  | .ok nodes => .ok ⟨document, nodes, walked⟩
  | .error fault => .error fault

def typedNodes (grammar : Grammar) : List SchemaNode := grammar.nodes.filter (·.typed)

def raw (grammar : Grammar) (node : SchemaNode) : Option Json :=
  Pointer.resolve? grammar.document node.pointer

end Grammar

end ChartDialogue
