/-! # Simple paths

The property names from the root of the grammar to a position. Hops through combinators,
references and list items leave no segment.
-/

namespace ChartDialogue

structure SimplePath where
  segments : List String
deriving DecidableEq, Inhabited

namespace SimplePath

def root : SimplePath := ⟨[]⟩

def length (path : SimplePath) : Nat := path.segments.length
def isEmpty (path : SimplePath) : Bool := path.segments.isEmpty
def last? (path : SimplePath) : Option String := path.segments.getLast?

def child (path : SimplePath) (segment : String) : SimplePath := ⟨path.segments ++ [segment]⟩

def endsWith (path : SimplePath) (suffix : List String) : Bool := suffix.isSuffixOf path.segments

def meets (path : SimplePath) (excluded : String → Bool) : Bool := path.segments.any excluded

/-! ## Texts -/

def dottedSegments (segments : List String) : String := String.intercalate "." segments

def dotted (path : SimplePath) : String := dottedSegments path.segments

def display (path : SimplePath) : String :=
  "[" ++ String.intercalate ", " path.segments ++ "]"

/-- Pieces between dots; `pending` holds the characters of the unfinished piece backwards. -/
def splitDots (pending : List Char) : List Char → List (List Char)
  | [] => [pending.reverse]
  | '.' :: rest => pending.reverse :: splitDots [] rest
  | character :: rest => splitDots (character :: pending) rest

/-- The non-empty pieces of a dotted text. -/
def ofDotted (text : String) : SimplePath :=
  ⟨((splitDots [] text.toList).filter (fun piece => ¬ piece.isEmpty)).map String.ofList⟩

example : (ofDotted "encoding..x.field.").segments = ["encoding", "x", "field"] := by
  decide +kernel

/-! ## Order -/

def before (left right : SimplePath) : Bool := decide (left.segments < right.segments)

def sort (paths : List SimplePath) : List SimplePath :=
  paths.mergeSort fun left right => ¬ right.before left

end SimplePath

end ChartDialogue
