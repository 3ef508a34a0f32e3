/-! # Fuzzy scores

How well a text matches a pattern whose characters have to occur in it in order. Each match earns
points, with a bonus at the start of a word and for neighbours that match; gaps cost points. The
best score is found cell by cell over two rows. The rows are kept from one text to the next
without being cleared, so that a bonus left in a cell can count for a later text.
-/

namespace ChartDialogue.Fuzzy

/-! ## Points -/

def matchPoints : Int := 16
def caseMismatchCost : Int := 2
def gapStartCost : Int := 4
def gapCost : Int := 1
def neighbourBonus : Int := 4
def unreachable : Int := -32768

inductive CharacterClass where
  | outside
  | hardSeparator
  | softSeparator
  | digit
  | upper
  | lower
deriving DecidableEq, Repr

/-- The class of a character; all that is neither separator, digit nor capital counts as lower
case. -/
def classOf (character : Char) : CharacterClass :=
  let code := character.toNat
  if code = 0 then .outside
  else if character ∈ [' ', '/', '\\', '|', '(', ')', '[', ']', '\x7b', '\x7d'] then
    .hardSeparator
  else if (0x21 ≤ code ∧ code ≤ 0x27) ∨ (0x2A ≤ code ∧ code ≤ 0x2E) ∨
      (0x3A ≤ code ∧ code ≤ 0x40) ∨ (0x5E ≤ code ∧ code ≤ 0x60) ∨ code = 0x7E then
    .softSeparator
  else if 0x30 ≤ code ∧ code ≤ 0x39 then .digit
  else if 0x41 ≤ code ∧ code ≤ 0x5A then .upper
  else .lower

def placeBonus : CharacterClass → CharacterClass → Int
  | .outside, _ => 8
  | .hardSeparator, _ => 8
  | .softSeparator, _ => 7
  | .lower, .upper => 6
  | .digit, .upper => 6
  | _, _ => 0

def bonusesAfter (previous : CharacterClass) : List Char → List Int
  | [] => []
  | character :: rest =>
    placeBonus previous (classOf character) :: bonusesAfter (classOf character) rest

/-- The bonuses of the places of a text; the first one counts twice. -/
def bonuses (text : List Char) : Array Int :=
  match bonusesAfter .outside text with
  | [] => #[]
  | first :: rest => (2 * first :: rest).toArray

/-! ## Matching -/

def matches? (sensitive : Bool) (left right : Char) : Bool :=
  if sensitive then left == right else left.toLower == right.toLower

def firstMatch (sensitive : Bool) : (pattern : List Char) → (text : List Char) → (place : Nat) →
    Option (List Nat)
  | [], _, _ => some []
  | _ :: _, [], _ => none
  | wanted :: pattern, character :: text, place =>
    if matches? sensitive wanted character then
      (firstMatch sensitive pattern text (place + 1)).map (place :: ·)
    else firstMatch sensitive (wanted :: pattern) text (place + 1)

/-! ## Cells -/

/-- The best score with a match here, the best score with a gap here, and the bonus of the run of
matches that ends here. -/
structure Cell where
  matched : Int
  passed : Int
  bonus : Int
deriving Inhabited

def Cell.fresh : Cell := ⟨unreachable, unreachable, 0⟩

def cellAt (cells : Array Cell) (place : Nat) : Cell := cells.getD place Cell.fresh

def resize (cells : Array Cell) (size : Nat) : Array Cell :=
  if size ≤ cells.size then cells.extract 0 size
  else cells ++ Array.replicate (size - cells.size) Cell.fresh

def fillCell (sensitive : Bool) (wanted : Char) (above row columns : Nat) (bonuses : Array Int)
    (cells : Array Cell) (entry : Char × Nat) : Array Cell :=
  let (character, place) := entry
  let left := row * columns + place
  let here := left + 1
  let diagonal := cellAt cells (above * columns + place)
  let isMatch := matches? sensitive wanted character
  let cells :=
    if isMatch then
      let placeBonus := bonuses.getD place 0
      let points := if wanted = character then matchPoints else matchPoints - caseMismatchCost
      let run := max (max (cellAt cells left).bonus placeBonus) neighbourBonus
      let cells := cells.setIfInBounds left { cellAt cells left with bonus := run }
      let best := max (diagonal.matched + run) (diagonal.passed + placeBonus) + points
      cells.setIfInBounds here { cellAt cells here with matched := best }
    else
      cells.setIfInBounds here { cellAt cells here with matched := unreachable, bonus := 0 }
  let neighbour := cellAt cells left
  let passed := max (neighbour.matched - gapStartCost) (neighbour.passed - gapCost)
  cells.setIfInBounds here { cellAt cells here with passed := passed }

/-- One row: the places from the first match of the pattern character on. -/
def fillRow (sensitive : Bool) (text : List Char) (columns : Nat) (bonuses : Array Int)
    (cells : Array Cell) (entry : (Char × Nat) × Nat) : Array Cell :=
  let ((wanted, first), number) := entry
  (text.zipIdx.drop first).foldl
    (fillCell sensitive wanted (number % 2) ((number + 1) % 2) columns bonuses) cells

def score (pattern : List Char) (cells : Array Cell) (text : List Char) :
    Option Int × Array Cell :=
  let sensitive := pattern.any Char.isUpper
  match firstMatch sensitive pattern text 0 with
  | none => (none, cells)
  | some [] => (some 0, cells)
  | some (start :: others) =>
    let places := start :: others
    let columns := text.length + 1
    let cells := resize cells (2 * columns)
    let cells := cells.setIfInBounds (columns + start) Cell.fresh
    let cells := (List.range columns).foldl
      (fun cells place => cells.setIfInBounds place ⟨unreachable, -1, 0⟩) cells
    let cells := ((pattern.zip places).zipIdx).foldl
      (fillRow sensitive text columns (bonuses text)) cells
    let row := (pattern.length % 2) * columns
    let last := (others.getLast?).getD start
    let best := ((List.range columns).drop last).foldl
      (fun best place => max best (cellAt cells (row + place)).matched) unreachable
    (some best, cells)

def scoresFrom (pattern : List Char) (cells : Array Cell) : List (List Char) → List (Option Int)
  | [] => []
  | text :: rest =>
    let (result, cells) := score pattern cells text
    result :: scoresFrom pattern cells rest

def scores (pattern : String) (texts : List String) : List (Option Int) :=
  scoresFrom pattern.toList #[] (texts.map String.toList)

end ChartDialogue.Fuzzy
