/-! # Places in YAML texts

A place is what lies ahead and how it is counted: the characters, the lines from one, and the
columns from zero. A carriage return and a line feed count as one line break.
-/

namespace ChartDialogue.Markup.Yaml

def isBlank (character : Char) : Bool := character == ' ' || character == '\t'
def isBreak (character : Char) : Bool := character == '\n' || character == '\r'

def isFlowMark (character : Char) : Bool := [',', '[', ']', '\x7b', '\x7d'].contains character

structure Place where
  rest : List Char
  index : Nat := 0
  line : Nat := 1
  column : Nat := 0
  /-- Whether nothing but blanks stands before on the line. -/
  fresh : Bool := true

inductive Fault where
  | malformed (reason : String) (index line column : Nat)
  | noNumber (text : String)
  | documents (count : Nat)

def Fault.message : Fault → String
  | .malformed reason index line column =>
    reason ++ " at byte " ++ toString index ++ " line " ++ toString line ++ " column " ++
      toString (column + 1)
  | .noNumber text => "Parsing " ++ text ++ " as floating point number failed"
  | .documents count => "Got " ++ toString count ++ " YAML documents, expected 1"

def fail {α : Type} (place : Place) (reason : String) : Except Fault α :=
  .error (.malformed reason place.index place.line place.column)

namespace Place

def next (place : Place) : Place :=
  match place.rest with
  | [] => place
  | '\r' :: '\n' :: rest => ⟨rest, place.index + 2, place.line + 1, 0, true⟩
  | character :: rest =>
    if isBreak character then ⟨rest, place.index + 1, place.line + 1, 0, true⟩
    else ⟨rest, place.index + 1, place.line, place.column + 1, place.fresh && isBlank character⟩

def skip (place : Place) : (count : Nat) → Place
  | 0 => place
  | count + 1 => skip place.next count

def skipWhile (test : Char → Bool) (place : Place) : Place :=
  place.skip (place.rest.takeWhile fun character => test character && ! isBreak character).length

def lineEnd (place : Place) : Place := place.skipWhile fun _ => true

def startsWith (place : Place) (character : Char) : Bool := place.rest.head? == some character

def atBlank (place : Place) : Bool := place.rest.head?.any isBlank
def atBreak (place : Place) : Bool := place.rest.head?.any isBreak

def atLineEnd (place : Place) : Bool := place.rest.isEmpty || place.atBreak

end Place

def endsWord (characters : List Char) : Bool :=
  characters.head?.all fun character => isBlank character || isBreak character

namespace Place

def atStartMarker (place : Place) : Bool :=
  place.column == 0 &&
    match place.rest with
    | '-' :: '-' :: '-' :: rest => endsWord rest
    | _ => false

def atEndMarker (place : Place) : Bool :=
  place.column == 0 &&
    match place.rest with
    | '.' :: '.' :: '.' :: rest => endsWord rest
    | _ => false

def atMarker (place : Place) : Bool := place.atStartMarker || place.atEndMarker

def restOfLine (place : Place) : Except Fault Place :=
  let behind := place.skipWhile isBlank
  if behind.startsWith '#' then
    if behind.index = place.index then
      fail behind "comments must be separated from other tokens by whitespace"
    else .ok behind.lineEnd
  else .ok behind

/-- The place of the next thing that is neither a blank nor a comment, and whether it is on a new
line. A tab is no indentation: within a block, a line that starts left of it has no tab in front. -/
def content (indent : Int) : (steps : Nat) → (newLine : Bool) → Place → Except Fault (Place × Bool)
  | 0, newLine, place => .ok (place, newLine)
  | steps + 1, newLine, place =>
    if place.startsWith '\t' ∧ place.fresh ∧ place.column < indent then do
      let behind ← place.restOfLine
      if behind.atLineEnd then content indent steps newLine behind
      else fail behind "tabs disallowed within this context (block indentation)"
    else if place.atBlank then content indent steps newLine place.next
    else if place.atBreak then content indent steps true place.next
    else if place.startsWith '#' then content indent steps newLine place.lineEnd
    else .ok (place, newLine)

end Place

/-! ## Gaps -/

structure Gap where
  blanks : List Char := []
  /-- Whether the first line break is one that joins two lines. -/
  joins : Bool := false
  breaks : Nat := 0
  behind : Place

namespace Gap

/-- What a gap leaves of itself: a line break that joins two lines counts as a blank, unless others
follow it. -/
def folded (gap : Gap) : List Char :=
  if gap.joins ∧ gap.breaks = 0 then [' '] else gap.blanks ++ List.replicate gap.breaks '\n'

/-- A gap with the line break behind it; `leading` says that it begins a line already. -/
def addBreak (gap : Gap) (leading : Bool) : Gap :=
  if leading then { gap with breaks := gap.breaks + 1, behind := gap.behind.next }
  else { gap with blanks := [], joins := true, behind := gap.behind.next }

def addBlank (gap : Gap) (leading : Bool) : Gap :=
  if leading then { gap with behind := gap.behind.next }
  else { gap with blanks := gap.blanks ++ gap.behind.rest.take 1, behind := gap.behind.next }

def quoted (indent : Int) : (steps : Nat) → (leading : Bool) → Gap → Except Fault Gap
  | 0, _, gap => .ok gap
  | steps + 1, leading, gap =>
    let place := gap.behind
    if place.atBreak then quoted indent steps true (gap.addBreak leading)
    else if place.atBlank then
      if leading ∧ place.startsWith '\t' ∧ (place.column : Int) < indent then
        fail place "tab cannot be used as indentation"
      else quoted indent steps leading (gap.addBlank leading)
    else .ok gap

/-- The gap in a plain scalar. A line with a tab left of a column holds nothing but a comment. -/
def plain (indent : Int) (start : Place) : (steps : Nat) → Gap → Except Fault Gap
  | 0, gap => .ok gap
  | steps + 1, gap =>
    let place := gap.behind
    if place.atBreak then plain indent start steps (gap.addBreak place.fresh)
    else if place.atBlank then
      if place.fresh ∧ place.startsWith '\t' ∧ (place.column : Int) < indent then do
        let behind ← place.restOfLine
        if behind.atLineEnd then plain indent start steps { gap with behind }
        else fail start "while scanning a plain scalar, found a tab"
      else plain indent start steps (gap.addBlank place.fresh)
    else .ok gap

end Gap

end ChartDialogue.Markup.Yaml
