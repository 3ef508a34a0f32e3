import ChartDialogue.Markup.Yaml.Token

/-! # The layout of YAML texts

A block is open as long as its lines are indented far enough. What stands before a colon is a key
only once the colon is there, so the tokens of a key and of the block it begins are put where the
key starts.
-/

namespace ChartDialogue.Markup.Yaml

/-- Where a key may start that has no mark of its own. -/
structure Candidate where
  place : Place
  /-- The number of tokens before it. -/
  number : Nat
  /-- Whether nothing but a key may stand there. -/
  required : Bool

structure Indent where
  column : Int
  /-- Whether the part is a block, so that its end is a token. -/
  isBlock : Bool

structure Layout where
  place : Place
  tokens : List PlacedToken := []
  mayStartKey : Bool := true
  candidate : Option Candidate := none
  indent : Int := -1
  outer : List Indent := []
  /-- For every collection in brackets that is open, the candidate outside of the brackets. -/
  outside : List (Option Candidate) := []
  /-- Whether a table in braces, or a key with a mark in brackets, has begun since a single pair of
  a list ended. From then on, single pairs begin no tables of their own. -/
  tableBegun : Bool := false
  inPair : Bool := false
  /-- Behind a key in quotes or brackets, a colon needs no blank behind it. -/
  adjacent : Nat := 0

namespace Layout

def inFlow (layout : Layout) : Bool := ! layout.outside.isEmpty

def put (layout : Layout) (token : Token) (place : Place) : Layout :=
  { layout with tokens := ⟨token, place⟩ :: layout.tokens }

def insert (layout : Layout) (number : Nat) (token : Token) (place : Place) : Layout :=
  let behind := layout.tokens.length - number
  { layout with tokens := layout.tokens.insertIdx behind ⟨token, place⟩ }

/-! ## Blocks -/

/-- The layout in a block at a column. Its token is put behind a number of others, and has the place
of the mark that tells the block. -/
def openBlock (layout : Layout) (collection : Collection) (column : Nat) (number : Nat)
    (mark : Place) : Layout :=
  if layout.inFlow then layout
  else
    let (indent, outer) := match layout.outer with
      | ⟨around, false⟩ :: outer =>
        if layout.indent ≤ column then (around, outer) else (layout.indent, layout.outer)
      | outer => (layout.indent, outer)
    if indent < column then
      { layout with indent := column, outer := ⟨indent, true⟩ :: outer }.insert number
        (.openBlock collection) mark
    else { layout with indent, outer }

def closeLatest (column : Int) : (steps : Nat) → Layout → Layout
  | 0, layout => layout
  | steps + 1, layout =>
    match layout.outer with
    | [] => layout
    | around :: outer =>
      if layout.indent ≤ column then layout
      else
        let inner := { layout with indent := around.column, outer }
        closeLatest column steps
          (if around.isBlock then inner.put .closeBlock layout.place else inner)

def closeBlocks (layout : Layout) (column : Int) : Layout :=
  if layout.inFlow then layout else layout.closeLatest column layout.outer.length

/-- Within a block, what follows is indented one column further. -/
def indentFurther (layout : Layout) : Layout :=
  if ! layout.inFlow && layout.outer.head?.any (·.isBlock) then
    { layout with indent := layout.indent + 1, outer := ⟨layout.indent, false⟩ :: layout.outer }
  else layout

def blockIndent (indent : Int) : List Indent → Int × List Indent
  | ⟨column, false⟩ :: outer => blockIndent column outer
  | outer => (indent, outer)

def indentAsBlock (layout : Layout) : Layout :=
  let (indent, outer) := blockIndent layout.indent layout.outer
  { layout with indent, outer }

/-! ## Keys -/

def saveKey (layout : Layout) : Layout :=
  if layout.mayStartKey then
    let required := ! layout.inFlow && layout.indent == layout.place.column &&
      layout.outer.head?.any (·.isBlock)
    { layout with candidate := some ⟨layout.place, layout.tokens.length, required⟩ }
  else layout

def dropKey (layout : Layout) : Except Fault Layout :=
  if layout.candidate.any (·.required) then fail layout.place "simple key expected"
  else .ok { layout with candidate := none }

/-- The layout without a candidate that is too far away. A key stands on one line. -/
def expireKey (layout : Layout) : Except Fault Layout :=
  match layout.candidate with
  | none => .ok layout
  | some candidate =>
    if ! layout.inFlow && (candidate.place.line < layout.place.line ||
        candidate.place.index + 1024 < layout.place.index) then
      if candidate.required then fail layout.place "simple key expect ':'"
      else .ok { layout with candidate := none }
    else .ok layout

/-! ## Marks -/

def behindMark (layout : Layout) (token : Token) : Except Fault Layout := do
  let behind ← layout.place.next.restOfLine
  return { layout with place := behind }.put token layout.place

def closePair (layout : Layout) : Layout :=
  if layout.inPair then
    { layout with inPair := false, tableBegun := false }.put (.closeFlow .table) layout.place
  else layout

def openBracket (layout : Layout) (collection : Collection) : Except Fault Layout := do
  let layout := layout.saveKey.indentFurther
  if 255 ≤ layout.outside.length then fail layout.place "recursion limit exceeded"
  else
    let outside := layout.candidate :: layout.outside
    let tableBegun := layout.tableBegun || collection == .table
    { layout with outside, tableBegun, candidate := none, mayStartKey := true }.behindMark
      (.openFlow collection)

def closeBracket (layout : Layout) (collection : Collection) : Except Fault Layout := do
  let layout := (← layout.dropKey).closePair
  let layout := match layout.outside with
    | candidate :: outside => { layout with outside, candidate }
    | [] => layout
  let layout ← { layout with mayStartKey := false }.behindMark (.closeFlow collection)
  return if layout.inFlow then { layout with adjacent := layout.place.index } else layout

def comma (layout : Layout) : Except Fault Layout := do
  let layout := (← layout.dropKey).closePair
  { layout with mayStartKey := true }.behindMark .comma

def dash (layout : Layout) : Except Fault Layout := do
  let start := layout.place
  if layout.inFlow then fail start "\"-\" is only valid inside a block"
  else if ! layout.mayStartKey then
    fail start "block sequence entries are not allowed in this context"
  else
    let layout := layout.openBlock .list start.column layout.tokens.length start
    let behind ← start.next.restOfLine
    let tabbed := (start.next.rest.takeWhile isBlank).contains '\t'
    if tabbed ∧ behind.startsWith '-' ∧ endsWord behind.next.rest then
      fail behind "'-' must be followed by a valid YAML whitespace"
    else
      let layout := { layout with place := behind }
      let layout := if behind.atBreak ∨ behind.rest.head?.any isFlowMark then layout.indentFurther
        else layout
      let layout ← layout.dropKey
      return { layout with mayStartKey := true }.put .dash behind

def behindSpaces : (steps : Nat) → Place → Place
  | 0, place => place
  | steps + 1, place =>
    if place.startsWith ' ' ∨ place.atBreak then behindSpaces steps place.next
    else if place.startsWith '#' then behindSpaces steps place.lineEnd
    else place

def keyMark (layout : Layout) : Except Fault Layout := do
  let start := layout.place
  if ! layout.inFlow && ! layout.mayStartKey then
    fail start "mapping keys are not allowed in this context"
  else
    let layout := if layout.inFlow then { layout with tableBegun := true }
      else layout.openBlock .table start.column layout.tokens.length start
    let layout ← layout.dropKey
    let place := behindSpaces start.rest.length start.next
    if place.index = start.next.index then fail place "expected whitespace"
    else if place.startsWith '\t' then fail place "tabs disallowed in this context"
    else return { layout with place, mayStartKey := ! layout.inFlow }.put .key start

/-- The place behind a colon; a tab alone does not part it from what follows. -/
def behindColon (start : Place) : Except Fault Place := do
  let place := start.next
  if place.startsWith '\t' then
    let behind ← place.restOfLine
    if (place.rest.takeWhile isBlank).contains ' ' then return behind
    else if behind.rest.head?.any fun character =>
        character.isAlphanum || character == '_' || character == '-' then
      fail behind "':' must be followed by a valid YAML whitespace"
    else return behind
  else return place

/-- A mark before a value. What stands before it is its key, or there is none. -/
def colon (layout : Layout) : Except Fault Layout := do
  let start := layout.place
  let place ← behindColon start
  let inPair := layout.inFlow && ! layout.tableBegun
  let layout := { layout with place, inPair }
  match layout.candidate with
  | some candidate =>
    let layout := layout.insert candidate.number .key candidate.place
    if inPair ∧ candidate.place.line < start.line then
      fail start "illegal placement of ':' indicator"
    else
      let layout := if inPair then layout.insert candidate.number (.openFlow .table) place
        else layout
      let layout := (layout.openBlock .table candidate.place.column candidate.number
        start).indentFurther
      return { layout with candidate := none, mayStartKey := false }.put .value start
  | none =>
    let layout := if inPair then layout.put (.openFlow .table) place else layout
    if ! layout.inFlow && ! layout.mayStartKey then
      fail start "mapping values are not allowed in this context"
    else
      let layout := (layout.openBlock .table start.column layout.tokens.length start).indentFurther
      return { layout with mayStartKey := ! layout.inFlow }.put .value start

/-! ## Scalars and names -/

def quoted (layout : Layout) (quote : Char) : Except Fault Layout := do
  let start := layout.place
  let layout := layout.saveKey
  let (text, behind) ← quotedScalar quote layout.indent layout.inFlow start
  let (place, newLine) ← behind.content layout.indent (behind.rest.length + 1) false
  let mayStartKey := newLine && ! layout.inFlow
  return { layout with place, mayStartKey, adjacent := place.index }.put (.scalar false text) start

def block (layout : Layout) (literal : Bool) : Except Fault Layout := do
  let start := layout.place
  let layout := layout.saveKey.indentAsBlock
  let (text, content, place) ← blockScalar literal layout.indent start
  return { layout with place, mayStartKey := true }.put (.scalar false text) content

def plain (layout : Layout) : Except Fault Layout := do
  let start := layout.place
  let layout := layout.saveKey.indentAsBlock
  let (text, place) ← plainScalar (layout.indent + 1) layout.inFlow start
  return { layout with place, mayStartKey := place.fresh }.put (.scalar true text) start

def anchor (layout : Layout) (token : String → Token) : Except Fault Layout := do
  let start := layout.place
  let layout := layout.saveKey
  let (name, place) ← anchorName start
  return { layout with place, mayStartKey := false }.put (token name) start

def tagMark (layout : Layout) : Except Fault Layout := do
  let start := layout.place
  let layout := layout.saveKey
  let (handle, kind, place) ← tag layout.inFlow start
  return { layout with place, mayStartKey := false }.put (.tag handle kind) start

/-! ## Documents -/

def outermost (layout : Layout) : Except Fault Layout := do
  let layout ← (layout.closeBlocks (-1)).dropKey
  return { layout with mayStartKey := false }

def directiveLine (layout : Layout) : Except Fault Layout := do
  let start := layout.place
  let layout ← layout.outermost
  let (directive, place) ← directive start
  return { layout with place }.put (.directive directive) start

def marker (layout : Layout) : Except Fault Layout := do
  let start := layout.place
  let layout ← layout.outermost
  if start.startsWith '-' then
    return { layout with place := start.skip 3 }.put .documentStart start
  else
    let behind ← (start.skip 3).restOfLine
    if behind.atLineEnd then return { layout with place := behind }.put .documentEnd start
    else fail behind "invalid content after document end marker"

def candidates (layout : Layout) : List Candidate :=
  (layout.candidate :: layout.outside).filterMap id

def finish (layout : Layout) : Except Fault Layout := do
  let place := if layout.place.column = 0 then layout.place
    else { layout.place with column := 0, line := layout.place.line + 1 }
  if layout.candidates.any (·.required) then fail place "simple key expected"
  else return ({ layout with place, candidate := none }.closeBlocks (-1)).put .textEnd place

/-! ## Texts -/

def advanceAt (layout : Layout) (character : Char) (rest : List Char) : Except Fault Layout :=
  let inFlow := layout.inFlow
  let endsHere := endsWord rest
  match character with
  | '[' => layout.openBracket .list
  | '\x7b' => layout.openBracket .table
  | ']' => layout.closeBracket .list
  | '\x7d' => layout.closeBracket .table
  | ',' => layout.comma
  | '*' => layout.anchor .reference
  | '&' => layout.anchor .anchor
  | '!' => layout.tagMark
  | '\'' | '"' => layout.quoted character
  | '%' | '@' | '\x60' =>
    fail layout.place ("unexpected character: \x60" ++ String.singleton character ++ "'")
  | _ =>
    if character = '-' ∧ endsHere then layout.dash
    else if character = '?' ∧ endsHere then layout.keyMark
    else if character = ':' ∧ (endsHere ∨
        inFlow ∧ (rest.head?.any isFlowMark ∨ layout.place.index = layout.adjacent)) then
      layout.colon
    else if character = '|' ∧ ¬ inFlow then layout.block true
    else if character = '>' ∧ ¬ inFlow then layout.block false
    else layout.plain

def advance (layout : Layout) : Except Fault Layout := do
  let before := layout.place
  let (place, newLine) ← before.content layout.indent (before.rest.length + 1) false
  let mayStartKey := layout.mayStartKey || newLine && ! layout.inFlow
  let layout ← { layout with place, mayStartKey }.expireKey
  let layout := layout.closeBlocks place.column
  match place.rest with
  | [] => layout.finish
  | character :: rest =>
    if place.column = 0 ∧ character = '%' then layout.directiveLine
    else if place.atMarker then layout.marker
    else if (place.column : Int) < layout.indent then fail place "invalid indentation"
    else layout.advanceAt character rest

/-- The number of tokens before the first candidate. Those behind it wait for what follows. -/
def settled (layout : Layout) : Nat :=
  layout.candidates.foldl (fun number candidate => min number candidate.number) layout.tokens.length

def breakOff (layout : Layout) (number : Nat) (fault : Fault) : List PlacedToken :=
  layout.tokens.reverse.take number ++ [⟨.broken fault, layout.place⟩]

/-- The tokens up to the end of the text, or to where it has none. `number` of them were settled
when the latest ones were read. -/
def allTokens : (steps : Nat) → (number : Nat) → Layout → List PlacedToken
  | 0, _, layout => layout.tokens.reverse
  | steps + 1, number, layout =>
    match layout.expireKey with
    | .error fault => layout.breakOff number fault
    | .ok layout =>
      match layout.tokens with
      | ⟨.textEnd, _⟩ :: _ => layout.tokens.reverse
      | _ =>
        match layout.advance with
        | .ok further => allTokens steps layout.settled further
        | .error fault => layout.breakOff layout.settled fault

end Layout

/-- The tokens of a text, which ends before its first null character. -/
def tokens (text : String) : List PlacedToken :=
  let characters := text.toList.takeWhile (· ≠ '\x00')
  Layout.allTokens (characters.length + 2) 0 { place := { rest := characters } }

end ChartDialogue.Markup.Yaml
