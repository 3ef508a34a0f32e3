import ChartDialogue.Grammar.Rank

/-! # The grammar as a recursive traversal

What the walk computes, said without a stack: at every site the children are found first, then the
site's own node comes, then the nodes of the children from left to right. The first fault in this
order is the fault of the whole.
-/

namespace ChartDialogue.Site

variable {document : Json}

def preorder (site : Site document) : Except GrammarFault (List SchemaNode) :=
  match _found : site.children with
  | .error fault => .error fault
  | .ok next => do
    let own ← site.ownNodes
    let below ← next.attach.mapM fun child => preorder child.1
    return own ++ below.flatten
termination_by site.rank
decreasing_by exact rank_lt_of_mem_children _found child.2

/-- The sites of a traversal, with the root first. -/
inductive Visited : Site document → Prop
  | root : Visited (Site.root document)
  | child {site child : Site document} {next : List (Site document)} (before : Visited site)
      (found : site.children = .ok next) (member : child ∈ next) : Visited child

end ChartDialogue.Site
