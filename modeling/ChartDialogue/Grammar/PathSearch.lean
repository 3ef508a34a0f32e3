import ChartDialogue.Fuzzy.Score
import ChartDialogue.Grammar.PathIndex

/-! # Searching for paths

The listed paths that a matcher scores, the best first. Of equal scores the path with fewer
segments comes first, and otherwise the one discovered earlier.
-/

namespace ChartDialogue

structure PathMatch where
  path : SimplePath
  score : Int
deriving DecidableEq

namespace PathMatch

def ranksBefore (left right : PathMatch) : Bool :=
  decide (right.score < left.score) ||
    (left.score == right.score && decide (left.path.length ≤ right.path.length))

def best (scored : List (SimplePath × Option Int)) (limit : Nat) : List PathMatch :=
  let found := scored.filterMap fun (path, score) => score.map fun score => ⟨path, score⟩
  (found.mergeSort ranksBefore).take limit

end PathMatch

namespace PathIndex

def searchBy (matcher : String → String → Option Int) (index : PathIndex) (query : String)
    (limit : Nat) : List PathMatch :=
  PathMatch.best (index.paths.map fun path => (path, matcher path.dotted query)) limit

def search (index : PathIndex) (query : String) (limit : Nat) : List PathMatch :=
  let scores := Fuzzy.scores query (index.paths.map SimplePath.dotted)
  PathMatch.best (index.paths.zip scores) limit

end PathIndex

end ChartDialogue
