import ChartDialogue.Grammar.Rank

/-! # Walking a schema document

The nodes of a grammar in discovery order. The walk keeps the sites still to be visited on a
stack: a site is taken off, its children are found, its node is recorded, and its children go on
top with the first one foremost.
-/

namespace ChartDialogue.Site

variable {document : Json}

def total (sizes : List Nat) : Nat := sizes.foldr (fun size rest => size + rest) 0

theorem total_cons (size : Nat) (rest : List Nat) : total (size :: rest) = size + total rest := rfl

theorem total_append (front back : List Nat) :
    total (front ++ back) = total front + total back := by
  induction front with
  | nil => simp [total]
  | cons size rest induction =>
    rw [List.cons_append, total_cons, total_cons, induction, Nat.add_assoc]

def traversalSize (site : Site document) : Nat :=
  match found : site.children with
  | .error _ => 1
  | .ok next => 1 + total (next.attach.map fun child => traversalSize child.1)
termination_by site.rank
decreasing_by exact rank_lt_of_mem_children found child.2

theorem traversalSize_of_children {site : Site document} {next : List (Site document)}
    (found : site.children = .ok next) :
    site.traversalSize = 1 + total (next.map traversalSize) := by
  rw [traversalSize]
  split
  · rename_i fault failed; rw [found] at failed; cases failed
  · rename_i other ok
    rw [found] at ok
    cases ok
    rw [List.attach_map_val (f := traversalSize)]

/-- The nodes recorded so far, backwards, and those of the sites on the stack. -/
def walk (recorded : List SchemaNode) (stack : List (Site document)) :
    Except GrammarFault (List SchemaNode) :=
  match stack with
  | [] => .ok recorded.reverse
  | site :: rest =>
    match _found : site.children with
    | .error fault => .error fault
    | .ok next =>
      match site.ownNodes with
      | .error fault => .error fault
      | .ok own => walk (own ++ recorded) (next ++ rest)
termination_by total (stack.map traversalSize)
decreasing_by
  rw [List.map_append, total_append, List.map_cons, total_cons, traversalSize_of_children _found]
  omega

end ChartDialogue.Site

namespace ChartDialogue

/-- Every node below the root of a document, in discovery order. -/
def descendants (document : Json) : Except GrammarFault (List SchemaNode) :=
  Site.walk [] [Site.root document]

end ChartDialogue
