import ChartDialogue.Number.FloatValue
import ChartDialogue.Number.Word
import ChartDialogue.Text.Lowercase

/-! # Layers of settings

Settings come from several sources, each of which may give some of them. Sources are laid one over
the other: sections are joined key by key, everything else is replaced. Keys are compared in small
letters.
-/

namespace ChartDialogue

inductive GivenScalar where
  | boolean (value : Bool)
  | integer (value : Int)
  | float (value : FloatValue)
  | text (value : String)

/-- What sources give. Every value knows the source it comes from. -/
inductive Given where
  /-- Nothing stands here: a null, or a position that a list was filled up to. -/
  | nothing (source : Option String)
  | scalar (source : String) (value : GivenScalar)
  | list (source : Option String) (elements : List Given)
  | section (source : Option String) (entries : List (String × Given))

namespace Given

def empty : Given := .section none []

def putEntry (key : String) (value : Given) : List (String × Given) → List (String × Given)
  | [] => [(key, value)]
  | (other, old) :: rest =>
    if key = other then (key, value) :: rest else (other, old) :: putEntry key value rest

def entries : Given → List (String × Given)
  | .section _ entries => entries
  | _ => []

/-- The source that a value comes from as a whole; what was joined has none. -/
def source? : Given → Option String
  | .nothing source => source
  | .scalar source _ => some source
  | .list source _ => source
  | .section source _ => source

def sectionSource? : Given → Option String
  | .section source _ => source
  | _ => none

/-! ## Laying one value over another -/

mutual
/-- What stands under a key when a value is laid over it. A section without entries changes
nothing where something stands. -/
def layOver (below : Option Given) : Given → Given
  | .section _ [] => below.getD empty
  | .section _ (entry :: rest) =>
    .section (below.getD empty).sectionSource?
      (layEntriesOver ((below.getD empty).entries) (entry :: rest))
  | other => other

def layEntriesOver (below : List (String × Given)) : List (String × Given) → List (String × Given)
  | [] => below
  | (key, value) :: rest =>
    layEntriesOver (putEntry (Text.lower key) (layOver (below.lookup (Text.lower key)) value) below)
      rest
end

/-! ## Places

The keys of a source can be paths themselves: names joined by dots, and positions in brackets. -/

/-- One step into a value. A negative position counts from the end of a list. -/
inductive Step where
  | name (key : String)
  | position (index : Int)
deriving DecidableEq

def isNameCharacter (character : Char) : Bool :=
  character.isAlphanum || character == ' ' || character == '_' || character == '-'

def name? (characters : List Char) : Option (String × List Char) :=
  match characters.takeWhile isNameCharacter with
  | [] => none
  | name => some (String.ofList name, characters.dropWhile isNameCharacter)

def position? (characters : List Char) : Option (Int × List Char) :=
  let isSpace (character : Char) : Bool := character == ' ' || character == '\t'
  let (negative, behind) := match characters.dropWhile isSpace with
    | '-' :: behind => (true, behind)
    | behind => (false, behind)
  let (digits, rest) := FloatValue.takeDigits behind
  match digits, rest.dropWhile isSpace with
  | [], _ => none
  | digits, ']' :: rest =>
    let index := Digits.withSign negative (Digits.total 10 digits)
    if Word.fitsSigned index then some (index, rest) else none
  | _, _ => none

def steps? : (fuel : Nat) → List Char → Option (List Step)
  | _, [] => some []
  | 0, _ => none
  | fuel + 1, '.' :: rest => do
    let (name, rest) ← name? rest
    return .name name :: (← steps? fuel rest)
  | fuel + 1, '[' :: rest => do
    let (position, rest) ← position? rest
    return .position position :: (← steps? fuel rest)
  | _, _ => none

/-- The steps of a key; a key that is no path is one step. -/
def stepsOf (key : String) : List Step :=
  let characters := key.toList
  let path := do
    let (name, rest) ← name? characters
    return Step.name name :: (← steps? rest.length rest)
  path.getD [.name key]

def elements : Given → List Given
  | .list _ elements => elements
  | _ => []

def listSource? : Given → Option String
  | .list source _ => source
  | _ => none

/-- The positions that a list is filled up to. -/
def positionLimit : Nat := 65536

def elementIndex (position : Int) (length : Nat) : Nat :=
  if position < 0 then length - position.natAbs else min position.toNat positionLimit

def putElement (index : Nat) (value : Given) (elements : List Given) : List Given :=
  (elements ++ List.replicate (index + 1 - elements.length) (Given.nothing none)).set index value

/-- Lay a value over a place. Whatever is no section or list on the way becomes one. -/
def place (value : Given) : List Step → Option Given → Given
  | [], below => layOver below value
  | .position position :: rest, below =>
    let list := below.getD empty
    let index := elementIndex position list.elements.length
    let element := match rest with
      | [] => value
      | _ => place value rest list.elements[index]?
    .list list.listSource? (putElement index element list.elements)
  | .name key :: rest, below =>
    let outer := below.getD empty
    let inner := place value rest (outer.entries.lookup (Text.lower key))
    .section outer.sectionSource? (putEntry (Text.lower key) inner outer.entries)

def addLayer (below : Given) (layer : List (String × Given)) : Given :=
  layer.foldl (fun given (key, value) => place value (stepsOf key) (some given)) below

def ofLayers (layers : List (List (String × Given))) : Given := layers.foldl addLayer empty

end Given

end ChartDialogue
