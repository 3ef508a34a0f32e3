import ChartDialogue.Markup.Value
import ChartDialogue.Number.Digits
import ChartDialogue.Text.Blank
import ChartDialogue.Text.Code
import ChartDialogue.Text.Quoted

/-! # Reading INI files

Lines of keys and texts, in sections. A text may start with a quoted part; a backslash escapes a
character anywhere. A section that is begun again starts empty.
-/

namespace ChartDialogue.Markup.Ini

/-- Where a reader is: the characters ahead, and the line and column of the first of them, the line
from zero and the column from one. The line break in front of a line has the column zero. -/
structure Place where
  rest : List Char
  line : Nat
  column : Nat

namespace Place

def enter (line column : Nat) : List Char → Place
  | '\n' :: rest => ⟨'\n' :: rest, line + 1, 0⟩
  | [] => ⟨[], line, column⟩
  | rest => ⟨rest, line, column + 1⟩

def next (place : Place) : Place := enter place.line place.column place.rest.tail

def skipWhile (test : Char → Bool) (line column : Nat) : List Char → Place
  | [] => enter line column []
  | character :: rest =>
    let here := enter line column (character :: rest)
    if test character then skipWhile test here.line here.column rest else here

end Place

/-- What is wrong with a text, and the line and column it was noticed in, one more than those of the
place. -/
structure Fault where
  line : Nat
  column : Nat
  reason : String

def Fault.message (fault : Fault) : String :=
  toString fault.line ++ ":" ++ toString fault.column ++ " " ++ fault.reason

def fail {α : Type} (place : Place) (reason : String) : Except Fault α :=
  .error ⟨place.line + 1, place.column + 1, reason⟩

structure Ending where
  characters : List Char
  atEnd : Bool

namespace Ending

def name (ending : Ending) : String :=
  let characters := ending.characters.map fun character =>
    "Some(" ++ Text.quotedCharacter character ++ ")"
  "[" ++ String.intercalate ", " (characters ++ if ending.atEnd then ["None"] else []) ++ "]"

def lineEnd : Ending := ⟨['\n', '\r'], true⟩
def sectionEnd : Ending := ⟨[']'], false⟩
def keyEnd : Ending := ⟨['=', ':'], false⟩

def quoteEnd (quote : Char) : Ending := ⟨[quote], false⟩

end Ending

def failEnd {α : Type} (place : Place) (ending : Ending) : Except Fault α :=
  fail place ("expecting \"" ++ ending.name ++ "\" but found EOF.")

/-! ## Pieces -/

/-- The four digits of a code, each from the character one further on. -/
def code (ending : Ending) : (digits : Nat) → (read : List Char) → Place →
    Except Fault (List Char × Place)
  | 0, read, place => .ok (read.reverse, place)
  | digits + 1, read, place =>
    let place := place.next
    match place.rest with
    | [] => failEnd place ending
    | '\\' :: _ =>
      let behind := place.next
      if behind.rest.head? = some '\n' then code ending digits ('\\' :: read) behind
      else
        let found := match behind.rest.head? with
          | none => "None"
          | some character => "Some(" ++ Text.quotedCharacter character ++ ")"
        fail behind ("expecting \"\\\\n\" but found \"" ++ found ++ "\".")
    | digit :: _ => code ending digits (digit :: read) place

/-- The characters of an escape, at the one that says which; the place is that of its last
character. -/
def escape (ending : Ending) (place : Place) : Except Fault (List Char × Place) :=
  match place.rest with
  | [] => failEnd place ending
  | '0' :: _ => .ok (['\x00'], place)
  | 'a' :: _ => .ok (['\x07'], place)
  | 'b' :: _ => .ok (['\x08'], place)
  | 't' :: _ => .ok (['\t'], place)
  | 'r' :: _ => .ok (['\r'], place)
  | 'n' :: _ => .ok (['\n'], place)
  | '\n' :: _ => .ok ([], place)
  | 'x' :: _ => do
    let (digits, place) ← code ending 4 [] place
    let digits := if digits.head? = some '+' then digits.tail else digits
    match (Digits.natural? 16 digits).bind Text.ofCode? with
    | some character => return ([character], place)
    | none => fail place "unknown character in \\xHH form"
  | character :: _ => .ok ([character], place)

def piece (ending : Ending) : (steps : Nat) → (read : List Char) → Place →
    Except Fault (List Char × Place)
  | 0, read, place => .ok (read.reverse, place)
  | steps + 1, read, place =>
    match place.rest with
    | [] => if ending.atEnd then .ok (read.reverse, place) else failEnd place ending
    | character :: _ =>
      if ending.characters.contains character then .ok (read.reverse, place)
      else if character = '\\' then do
        let (escaped, last) ← escape ending place.next
        piece ending steps (escaped.reverse ++ read) last.next
      else piece ending steps (character :: read) place.next

/-- The text of a key, from the place where it starts to the end of its line. Blanks at its ends do
not count, in quotes or not. -/
def entryText (place : Place) : Except Fault (String × Place) := do
  let (quoted, place) ← match place.rest.head? with
    | some '"' => quotedPart '"' place.next
    | some '\'' => quotedPart '\'' place.next
    | _ => pure ([], place)
  let (plain, place) ← piece .lineEnd (place.rest.length + 1) [] place
  return (Text.trim (String.ofList (quoted ++ plain)), place)
where
  quotedPart (quote : Char) (place : Place) : Except Fault (List Char × Place) := do
    let (quoted, last) ← piece (.quoteEnd quote) (place.rest.length + 1) [] place
    return (quoted, last.next)

/-! ## Files -/

structure File where
  general : List (String × Value) := []
  sections : List (String × Value) := []
  latest : Option (String × List (String × Value)) := none

namespace File

def close (file : File) : File :=
  match file.latest with
  | none => file
  | some (name, entries) =>
    { file with sections := Value.putEntry name (.table entries) file.sections, latest := none }

def begin_ (file : File) (name : String) : File := { file.close with latest := some (name, []) }

def put (file : File) (key text : String) : File :=
  match file.latest with
  | none => { file with general := Value.putEntry key (.text text) file.general }
  | some (name, entries) =>
    { file with latest := some (name, Value.putEntry key (.text text) entries) }

def toValue (file : File) : Value :=
  .table (file.close.sections.foldl
    (fun entries (name, value) => Value.putEntry name value entries) file.close.general)

end File

def skipBlanks (place : Place) : Place :=
  if place.rest.head?.any Text.isBlank then
    Place.skipWhile Text.isBlank place.line place.column place.rest.tail
  else place

def isInnerBlank (character : Char) : Bool :=
  Text.isBlank character && character != '\n' && character != '\r'

def skipInnerBlanks (place : Place) : Place :=
  if place.rest.head?.any isInnerBlank then
    Place.skipWhile isInnerBlank place.line place.column place.rest.tail
  else place

def skipLine (place : Place) : Place :=
  if place.rest.head?.any (· != '\n') then
    (Place.skipWhile (· != '\n') place.line place.column place.rest.tail).next
  else place.next

/-- The rest of a file, with the key that still waits for its text. -/
def readFile : (steps : Nat) → File → (key : String) → Place → Except Fault File
  | 0, file, _, _ => .ok file
  | steps + 1, file, key, place =>
    match place.rest with
    | [] => .ok file
    | character :: _ =>
      if character = ';' ∨ character = '#' then
        if 1 < place.column then fail place "doesn't support inline comment"
        else readFile steps file key (skipBlanks (skipLine place))
      else if character = '[' then do
        let (name, last) ← piece .sectionEnd (place.rest.length + 1) [] place.next
        let name := Text.trim (String.ofList name)
        readFile steps (file.begin_ name) key (skipBlanks last.next)
      else if character = '=' ∨ character = ':' then
        if key.isEmpty then fail place "missing key"
        else do
          let (text, place) ← entryText (skipInnerBlanks place.next)
          readFile steps (file.put key text) "" (skipBlanks place)
      else do
        let (key, place) ← piece .keyEnd (place.rest.length + 1) [] place
        readFile steps file (Text.trim (String.ofList key)) (skipBlanks place)

def parse (text : String) : Except Fault Value := do
  let characters := text.toList
  let start := skipBlanks (Place.enter 0 0 characters)
  return (← readFile (characters.length + 1) {} "" start).toValue

end ChartDialogue.Markup.Ini
