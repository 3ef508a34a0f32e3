import ChartDialogue.Markup.Yaml.Place
import ChartDialogue.Number.Digits
import ChartDialogue.Text.Code

/-! # Scalars of YAML texts

A scalar stands as it is, between quotes, or in a block of lines of its own.
-/

namespace ChartDialogue.Markup.Yaml

/-! ## Plain scalars -/

def continuesPlain (inFlow : Bool) : List Char → Bool
  | [] => false
  | ':' :: rest => ! (endsWord rest || inFlow && rest.head?.any isFlowMark)
  | character :: _ =>
    ! (isBlank character || isBreak character || inFlow && isFlowMark character)

def plainWord (inFlow : Bool) : (steps : Nat) → (read : List Char) → Place → List Char × Place
  | 0, read, place => (read, place)
  | steps + 1, read, place =>
    match place.rest with
    | [] => (read, place)
    | character :: rest =>
      if continuesPlain inFlow (character :: rest) then
        plainWord inFlow steps (character :: read) place.next
      else (read, place)

/-- The characters of a plain scalar, backwards. The gap before a word counts once the word is
there. -/
def plainWords (indent : Int) (inFlow : Bool) (start : Place) :
    (steps : Nat) → (read gap : List Char) → Place → Except Fault (List Char × Place)
  | 0, read, _, place => .ok (read, place)
  | steps + 1, read, gap, place =>
    if place.atMarker ∨ place.startsWith '#' then .ok (read, place)
    else if inFlow ∧ place.startsWith '-' ∧ place.next.rest.head?.any isFlowMark then
      fail place "plain scalar cannot start with '-' followed by ,[]\x7b\x7d"
    else if ! continuesPlain inFlow place.rest then .ok (read, place)
    else
      let (read, place) := plainWord inFlow place.rest.length (gap.reverse ++ read) place
      if place.atBlank ∨ place.atBreak then do
        let gap ← Gap.plain indent start place.rest.length { behind := place }
        if ¬ inFlow ∧ (gap.behind.column : Int) < indent then return (read, gap.behind)
        else plainWords indent inFlow start steps read gap.folded gap.behind
      else .ok (read, place)

def plainScalar (indent : Int) (inFlow : Bool) (place : Place) :
    Except Fault (String × Place) := do
  if inFlow ∧ place.column < indent then fail place "invalid indentation in flow construct"
  else
    let (read, behind) ← plainWords indent inFlow place (place.rest.length + 1) [] [] place
    return (String.ofList read.reverse, behind)

/-! ## Quoted scalars -/

def letterEscapes : List (Char × Char) := [
  ('0', '\x00'), ('a', '\x07'), ('b', '\x08'), ('t', '\t'), ('\t', '\t'), ('n', '\n'),
  ('v', '\x0b'), ('f', '\x0c'), ('r', '\r'), ('e', '\x1b'), (' ', ' '), ('"', '"'), ('/', '/'),
  ('\\', '\\'), ('N', '\x85'), ('_', '\xA0'), ('L', '\u2028'), ('P', '\u2029')]

def codeLength? : Char → Option Nat
  | 'x' => some 2
  | 'u' => some 4
  | 'U' => some 8
  | _ => none

def escaped (start place : Place) : Except Fault (Char × Place) := do
  let letter := place.next.rest.head?.getD '\x00'
  match letterEscapes.lookup letter, codeLength? letter with
  | some character, _ => return (character, place.skip 2)
  | none, some length =>
    let digits := (place.skip 2).rest.take length
    match (Digits.natural? 16 digits).filter fun _ => digits.length = length with
    | none => fail start "while parsing a quoted scalar, did not find expected hexadecimal number"
    | some code =>
      match Text.ofCode? code with
      | some character => return (character, place.skip (length + 2))
      | none =>
        fail start "while parsing a quoted scalar, found invalid Unicode character escape code"
  | none, none => fail start "while parsing a quoted scalar, found unknown escape character"

/-- The characters of a quoted scalar up to the next gap or the closing quote, backwards on top of
those read before, and whether the last of them is an escaped line break. -/
def quotedWord (quote : Char) (start : Place) :
    (steps : Nat) → (read : List Char) → Place → Except Fault (List Char × Bool × Place)
  | 0, read, place => .ok (read, false, place)
  | steps + 1, read, place =>
    match place.rest with
    | [] => .ok (read, false, place)
    | character :: rest =>
      if isBlank character ∨ isBreak character then .ok (read, false, place)
      else if character = quote then
        if quote = '\'' ∧ rest.head? = some '\'' then
          quotedWord quote start steps ('\'' :: read) (place.skip 2)
        else .ok (read, false, place)
      else if quote = '"' ∧ character = '\\' then
        if rest.head?.any isBreak then .ok (read, true, place.skip 2)
        else do
          let (character, behind) ← escaped start place
          quotedWord quote start steps (character :: read) behind
      else quotedWord quote start steps (character :: read) place.next

def quotedWords (quote : Char) (indent : Int) (start : Place) :
    (steps : Nat) → (read : List Char) → Place → Except Fault (List Char × Place)
  | 0, _, _ => fail start "while scanning a quoted scalar, found unexpected end of stream"
  | steps + 1, read, place => do
    if place.atMarker then
      fail start "while scanning a quoted scalar, found unexpected document indicator"
    else if place.rest.isEmpty then
      fail start "while scanning a quoted scalar, found unexpected end of stream"
    else if place.column < indent then fail start "invalid indentation in quoted scalar"
    else
      let (read, broken, place) ← quotedWord quote start (place.rest.length + 1) read place
      if place.startsWith quote then return (read, place.next)
      else
        let gap ← Gap.quoted indent place.rest.length broken { behind := place }
        quotedWords quote indent start steps (gap.folded.reverse ++ read) gap.behind

/-- A quoted scalar. Behind it the line ends, the collection around it goes on, or a colon makes it
a key. -/
def quotedScalar (quote : Char) (indent : Int) (inFlow : Bool) (place : Place) :
    Except Fault (String × Place) := do
  let (read, behind) ← quotedWords quote indent place (place.rest.length + 1) [] place.next
  let behind ← behind.restOfLine
  let goesOn := match behind.rest with
    | [] => true
    | ':' :: _ => inFlow || behind.line == place.line
    | character :: _ => isBreak character || inFlow && [',', '\x7d', ']'].contains character
  if goesOn then return (String.ofList read.reverse, behind)
  else fail behind "invalid trailing content after double-quoted scalar"

/-! ## Block scalars -/

inductive Chomping where
  | clip
  | strip
  | keep
deriving DecidableEq

def Chomping.ofMark? : Char → Option Chomping
  | '+' => some .keep
  | '-' => some .strip
  | _ => none

/-- The head of a block scalar, from behind its first mark: how it is chomped, and how far it is
indented if it says so. -/
def blockHead (start place : Place) : Except Fault (Chomping × Option Nat × Place) := do
  let chomping (place : Place) : Chomping × Place :=
    match place.rest.head?.bind Chomping.ofMark? with
    | some chomping => (chomping, place.next)
    | none => (.clip, place)
  let (before, place) := chomping place
  match place.rest.head?.filter Char.isDigit with
  | none => return (before, none, place)
  | some '0' =>
    fail start "while scanning a block scalar, found an indentation indicator equal to 0"
  | some digit =>
    let (after, behind) := if before = .clip then chomping place.next else (before, place.next)
    return (after, some (digit.toNat - '0'.toNat), behind)

/-- The number of empty lines ahead that are not indented further than a column, and the place
behind them and the indentation of the next line. -/
def emptyLines (indent : Nat) : (steps : Nat) → (breaks : Nat) → Place → Nat × Place
  | 0, breaks, place => (breaks, place)
  | steps + 1, breaks, place =>
    let spaces := (place.rest.takeWhile (· == ' ')).length
    let behind := place.skip (min spaces (indent - place.column))
    if behind.atBreak then emptyLines indent steps (breaks + 1) behind.next
    else (breaks, behind)

/-- The number of empty lines ahead, how far the furthest of them and the line behind them are
indented, and the place of that line's first character. -/
def leadingLines : (steps : Nat) → (breaks column : Nat) → Place → Nat × Nat × Place
  | 0, breaks, column, place => (breaks, column, place)
  | steps + 1, breaks, column, place =>
    let behind := place.skipWhile (· == ' ')
    let column := max column behind.column
    if behind.atBreak then leadingLines steps (breaks + 1) column behind.next
    else (breaks, column, behind)

/-- The lines of a block scalar at a column: the characters, backwards, the line break of the last
line if it has one, and the number of empty lines behind it. `broken` and `breaks` are those of the
lines before, and `indented` says whether the last of them starts with a blank. -/
def blockLines (literal : Bool) (indent : Nat) : (steps : Nat) → (read : List Char) →
    (broken : Bool) → (breaks : Nat) → (indented : Bool) → Place →
    List Char × Bool × Nat × Place
  | 0, read, broken, breaks, _, place => (read, broken, breaks, place)
  | steps + 1, read, broken, breaks, indented, place =>
    if place.column ≠ indent ∨ place.rest.isEmpty ∨ (indent = 0 ∧ place.atEndMarker) then
      (read, broken, breaks, place)
    else
      let folds := ! literal && broken && ! indented && ! place.atBlank
      let between :=
        if folds then (if breaks = 0 then [' '] else List.replicate breaks '\n')
        else List.replicate (breaks + if broken then 1 else 0) '\n'
      let behind := place.lineEnd
      let line := place.rest.takeWhile fun character => ¬ isBreak character
      let read := line.reverse ++ between ++ read
      if behind.rest.isEmpty then (read, false, 0, behind)
      else
        let (breaks, next) := emptyLines indent behind.rest.length 0 behind.next
        blockLines literal indent steps read true breaks place.atBlank next

/-- A block scalar, from its first mark: its text, the place its lines start at, and the place
behind it. Its lines are indented further than the block around it. -/
def blockScalar (literal : Bool) (outer : Int) (start : Place) :
    Except Fault (String × Place × Place) := do
  let (chomping, further, place) ← blockHead start start.next
  let place ← place.restOfLine
  if ¬ place.atLineEnd then
    fail start "while scanning a block scalar, did not find expected comment or line break"
  else
    let steps := place.rest.length + 1
    let first := if place.atBreak then place.next else place
    if first.startsWith '\t' then fail start "a block scalar content cannot start with a tab"
    else
      let (breaks, indent, place) := match further with
        | some further =>
          let indent := (max outer 0).toNat + further
          let (breaks, place) := emptyLines indent steps 0 first
          (breaks, indent, place)
        | none =>
          let (breaks, column, place) := leadingLines steps 0 0 first
          (breaks, max column (outer + 1).toNat, place)
      if place.rest.isEmpty then
        let text := match chomping with
          | .strip => []
          | .clip => if place.line = start.line then [] else ['\n']
          | .keep => if place.line = start.line then [] else List.replicate (max breaks 1) '\n'
        return (String.ofList text, start, place)
      else if place.column < indent ∧ outer < place.column then
        fail place "wrongly indented line in block scalar"
      else
        let (read, broken, breaks, behind) :=
          blockLines literal indent steps [] false breaks false place
        let last := (if broken then 1 else 0) +
          if behind.rest.isEmpty ∧ max indent 1 ≤ behind.column then 1 else 0
        let ending := match chomping with
          | .strip => 0
          | .clip => last
          | .keep => last + breaks
        return (String.ofList (read.reverse ++ List.replicate ending '\n'), place, behind)

end ChartDialogue.Markup.Yaml
