import ChartDialogue.Markup.Json5.Missed
import ChartDialogue.Markup.Value
import ChartDialogue.Number.Word
import ChartDialogue.Text.Blank
import ChartDialogue.Text.Code
import ChartDialogue.Text.Name

/-! # Reading JSON5

JSON with comments, names as keys, strings in apostrophes, commas behind the last item, and more
ways to write numbers. Numbers and halves of characters are judged once the whole text is read.
-/

namespace ChartDialogue.Markup.Json5

inductive Fault where
  | malformed (drawing : String)
  | integer
  | number
  | tooLarge
  | hexadecimal
  | trailHalf
  | missingTrailHalf
  | expectedTrailHalf
deriving DecidableEq, Repr

def Fault.message : Fault → String
  | .malformed drawing => drawing
  | .integer => "error parsing integer"
  | .number => "error parsing number"
  | .tooLarge => "error parsing number: too large"
  | .hexadecimal => "error parsing hex"
  | .trailHalf => "unexpected unicode trail surrogate"
  | .missingTrailHalf => "missing unicode trail surrogate"
  | .expectedTrailHalf => "expecting unicode trail surrogate"

/-! ## Places -/

structure Place where
  rest : List Char
  index : Nat := 0

def Place.skip (place : Place) (count : Nat) : Place :=
  ⟨place.rest.drop count, place.index + count⟩

def isLineBreak (character : Char) : Bool :=
  ['\n', '\r', '\u2028', '\u2029'].contains character

def isBlank (character : Char) : Bool :=
  (Text.isBlank character && character != '\x85') || character == '\uFEFF'

def blockLength? : List Char → Option Nat
  | '*' :: '/' :: _ => some 2
  | _ :: rest => (blockLength? rest).map (· + 1)
  | [] => none

def Place.skipBlanks : (steps : Nat) → Place → Place
  | 0, place => place
  | steps + 1, place =>
    let behind := place.skip (place.rest.takeWhile isBlank).length
    match behind.rest with
    | '/' :: '/' :: rest =>
      let length := (rest.takeWhile fun character => ¬ isLineBreak character).length
      skipBlanks steps (behind.skip (length + 2))
    | '/' :: '*' :: rest =>
      match blockLength? rest with
      | some length => skipBlanks steps (behind.skip (length + 2))
      | none => behind
    | _ => behind

def Place.content (place : Place) : Place := place.skipBlanks (place.rest.length + 1)

/-! ## Readers -/

/-- A reader of something that may not be there. What was missed is remembered in any case. -/
abbrev Reading (α : Type) : Type := OptionT (StateM Missed) α

def part {α : Type} (wanted : Part) (place : Place) (reading : Reading α) : Reading α :=
  OptionT.mk do
    match ← reading.run with
    | some found => return some found
    | none =>
      modify fun missed => missed.add place.index wanted
      return none

def optional {α : Type} (reading : Reading α) : Reading (Option α) :=
  OptionT.mk (some <$> reading.run)

def mark (wanted : Char) (place : Place) : Reading Place :=
  if place.rest.head? = some wanted then return place.skip 1 else failure

/-- A value, and the place behind it. It may turn out not to be one. -/
abbrev ValueReading : Type := Reading (Except Fault Value × Place)

/-! ## Numbers -/

def decimalLength? (characters : List Char) : Option Nat :=
  let whole := match characters with
    | '0' :: _ => 1
    | _ => (characters.takeWhile Char.isDigit).length
  let behind := characters.drop whole
  let fraction? := match behind with
    | '.' :: rest =>
      let digits := (rest.takeWhile Char.isDigit).length
      if whole = 0 ∧ digits = 0 then none else some (digits + 1)
    | _ => if whole = 0 then none else some 0
  fraction?.map fun fraction =>
    let exponent := match behind.drop fraction with
      | letter :: rest =>
        if letter = 'e' ∨ letter = 'E' then
          let sign := if rest.head? = some '+' ∨ rest.head? = some '-' then 1 else 0
          let digits := ((rest.drop sign).takeWhile Char.isDigit).length
          if digits = 0 then 0 else 1 + sign + digits
        else 0
      | [] => 0
    whole + fraction + exponent

def unsignedLength? (characters : List Char) : Option Nat :=
  let hexadecimal (rest : List Char) : Option Nat :=
    let digits := (rest.takeWhile (Digits.isDigit 16)).length
    if digits = 0 then decimalLength? characters else some (digits + 2)
  match characters with
  | '0' :: 'x' :: rest => hexadecimal rest
  | '0' :: 'X' :: rest => hexadecimal rest
  | _ =>
    if "Infinity".toList.isPrefixOf characters then some 8
    else if "NaN".toList.isPrefixOf characters then some 3
    else decimalLength? characters

def hexNumber? (digits : List Char) : Option Nat :=
  (Digits.natural? 16 digits).filter (· < 0x100000000)

/-- The value of a number from its characters. A number in hexadecimal digits fits into half a word;
words and hexadecimal digits take no sign but a minus before `Infinity` and `NaN`. -/
def numberOf (characters : List Char) : Except Fault Value :=
  match String.ofList characters with
  | "Infinity" => .ok (.float (.infinite false))
  | "-Infinity" => .ok (.float (.infinite true))
  | "NaN" | "-NaN" => .ok (.float .undefined)
  | _ =>
    match characters with
    | '0' :: 'x' :: digits | '0' :: 'X' :: digits =>
      match hexNumber? digits with
      | some number => .ok (.integer number)
      | none => .error .hexadecimal
    | _ =>
      let (negative, digits) := Digits.takeSign characters
      if characters.any fun character => ['.', 'e', 'E'].contains character then
        match FloatValue.number? negative digits with
        | some (.finite number) => .ok (.float (.finite number))
        | some _ => .error .tooLarge
        | none => .error .number
      else match Word.ofSigned? 10 characters with
        | some value => .ok (.integer value)
        | none => .error .integer

def number (place : Place) : ValueReading :=
  part .number place do
    let sign := if place.rest.head? = some '+' ∨ place.rest.head? = some '-' then 1 else 0
    match unsignedLength? (place.rest.drop sign) with
    | some length => return (numberOf (place.rest.take (sign + length)), place.skip (sign + length))
    | none => failure

/-! ## Strings -/

/-- What a string is made of: characters, and codes that may be halves of one. -/
inductive Piece where
  | character (character : Char) (inDigits : Bool)
  | code (number : Nat)

def Piece.ofWritten (character : Char) : Piece := .character character (Digits.isDigit 16 character)

/-- The fault of a leading half that some pieces follow. A code is looked for in the next of them,
which may be written in hexadecimal digits without being one. -/
def halfFault : List Piece → Fault
  | [] => .missingTrailHalf
  | .character _ false :: _ => .hexadecimal
  | _ => .expectedTrailHalf

/-- The text that some pieces make up. Two halves in a row are one character. -/
def textOf : (read : List Char) → List Piece → Except Fault String
  | read, [] => .ok (String.ofList read.reverse)
  | read, .character character _ :: rest => textOf (character :: read) rest
  | read, .code first :: rest =>
    if first < 0xD800 ∨ 0xDFFF < first then textOf (Char.ofNat first :: read) rest
    else if 0xDC00 ≤ first then .error .trailHalf
    else match rest with
      | .code second :: rest =>
        if 0xDC00 ≤ second ∧ second ≤ 0xDFFF then
          textOf (Text.ofHalves first second :: read) rest
        else .error .expectedTrailHalf
      | rest => .error (halfFault rest)

def code (wanted : Part) (count : Nat) (place : Place) : Reading (Nat × Place) :=
  part wanted place do
    let digits := place.rest.take count
    match (Digits.natural? 16 digits).filter fun _ => digits.length = count with
    | some number => return (number, place.skip count)
    | none => failure

def unicodeEscape (place : Place) : Reading (Piece × Place) := do
  let (number, behind) ← code .unicodeEscape 4 place
  return (.code number, behind)

/-- What a letter behind a backslash stands for. Most characters stand for themselves. -/
def escaped? (letter : Char) : Option Char :=
  match letter with
  | 'b' => some '\x08'
  | 'f' => some '\x0c'
  | 'n' => some '\n'
  | 'r' => some '\r'
  | 't' => some '\t'
  | 'v' => some '\x0b'
  | 'x' | 'u' => none
  | _ => if letter.isDigit ∨ isLineBreak letter then none else some letter

def escape (place : Place) : Reading (Piece × Place) :=
  let plain := part .characterEscape place do
    match place.rest with
    | [] => failure
    | letter :: _ =>
      match escaped? letter with
      | some character =>
        return (Piece.character character (Digits.isDigit 16 letter), place.skip 1)
      | none => failure
  let zero := part .zeroEscape place do return (Piece.character '\x00' true, ← mark '0' place)
  let hexadecimal := do
    let (number, behind) ← code .hexEscape 2 (← mark 'x' place)
    return (Piece.character (Char.ofNat number) true, behind)
  plain <|> zero <|> hexadecimal <|> do unicodeEscape (← mark 'u' place)

def lineBreak (place : Place) : Reading Place :=
  match place.rest with
  | '\r' :: '\n' :: _ => return place.skip 2
  | character :: _ => if isLineBreak character then return place.skip 1 else failure
  | [] => failure

/-- A piece of a string. A line break that is escaped counts for nothing. -/
def piece (quote : Char) (place : Place) : Reading (Option Piece × Place) :=
  let escaped := do
    let (piece, behind) ← escape (← mark '\\' place)
    return (some piece, behind)
  let continued := do return (none, ← lineBreak (← mark '\\' place))
  let plain := part .character place do
    match place.rest with
    | [] => failure
    | character :: _ =>
      if character = '\\' ∨ isLineBreak character then failure
      else return (some (Piece.ofWritten character), place.skip 1)
  escaped <|> continued <|> if place.rest.head? = some quote then failure else plain

def pieces (quote : Char) : (steps : Nat) → (read : List Piece) → Place →
    Reading (List Piece × Place)
  | 0, _, _ => failure
  | steps + 1, read, place => do
    match ← optional (piece quote place) with
    | some (found, behind) => pieces quote steps (found.toList ++ read) behind
    | none => return (read.reverse, ← mark quote place)

abbrev TextReading : Type := Reading (Except Fault String × Place)

def string (place : Place) : TextReading :=
  let quoted (quote : Char) : TextReading := do
    let (found, behind) ← pieces quote (place.rest.length + 1) [] (← mark quote place)
    return (textOf [] found, behind)
  part .string place (quoted '"' <|> quoted '\'')

/-! ## Keys -/

def isNameStart (character : Char) : Bool :=
  Text.isLetter character || character == '$' || character == '_'

/-- Whether a name may go on with a character. The two joiners have no shape of their own. -/
def isNameRest (character : Char) : Bool :=
  isNameStart character || Text.isNameMark character || character == '\u200C' ||
    character == '\u200D'

def namePiece (test : Char → Bool) (place : Place) : Reading (Piece × Place) :=
  match place.rest with
  | '\\' :: 'u' :: _ => unicodeEscape (place.skip 2)
  | character :: _ =>
    if test character then return (.ofWritten character, place.skip 1) else failure
  | [] => failure

def nameRest : (steps : Nat) → (read : List Piece) → Place → Reading (List Piece × Place)
  | 0, read, place => return (read.reverse, place)
  | steps + 1, read, place => do
    match ← optional (namePiece isNameRest place) with
    | some (found, behind) => nameRest steps (found :: read) behind
    | none => return (read.reverse, place)

def name (place : Place) : TextReading :=
  part .identifier place do
    let (first, behind) ← namePiece isNameStart place
    let (found, behind) ← nameRest behind.rest.length [first] behind
    return (textOf [] found, behind)

/-! ## Values -/

def items {α : Type} (closing : Char) (item : Place → Reading (α × Place)) :
    (steps : Nat) → (read : List α) → Place → Reading (List α × Place)
  | 0, _, _ => failure
  | steps + 1, read, place => do
    let (found, behind) ← item place
    let read := found :: read
    let close (place : Place) : Reading (List α × Place) :=
      return (read.reverse, ← mark closing place)
    let more := do
      let behind := (← mark ',' behind.content).content
      items closing item steps read behind <|> close behind
    close behind.content <|> more

def bracketed {α : Type} (opening closing : Char) (item : Place → Reading (α × Place))
    (place : Place) : Reading (List α × Place) := do
  let inner := (← mark opening place).content
  let nothing := do return ([], ← mark closing inner)
  nothing <|> items closing item (inner.rest.length + 1) [] inner

def entry (value : Place → ValueReading) (place : Place) :
    Reading (Except Fault (String × Value) × Place) := do
  let (key, behind) ← name place <|> string place
  let (inner, behind) ← value (← mark ':' behind.content).content
  return (do return (← key, ← inner), behind)

def word (word : String) (meaning : Value) (place : Place) : ValueReading :=
  if word.toList.isPrefixOf place.rest then return (.ok meaning, place.skip word.length)
  else failure

def value : (depth : Nat) → Place → ValueReading
  | 0, _ => failure
  | depth + 1, place =>
    let null := part .null place (word "null" .null place)
    let boolean := part .boolean place
      (word "true" (.boolean true) place <|> word "false" (.boolean false) place)
    let text := do
      let (text, behind) ← string place
      return (text.map Value.text, behind)
    let object := part .object place do
      let (entries, behind) ← bracketed '\x7b' '\x7d' (entry (value depth)) place
      return (do return .ofEntries (← entries.mapM id), behind)
    let array := part .array place do
      let (elements, behind) ← bracketed '[' ']' (value depth) place
      return (do return .list (← elements.mapM id), behind)
    null <|> boolean <|> text <|> number place <|> object <|> array

def document (characters : List Char) : Reading (Except Fault Value) := do
  let start := Place.content { rest := characters }
  let (found, behind) ← value (characters.length + 1) start
  let behind := behind.content
  part .textEnd behind (if behind.rest.isEmpty then return found else failure)

def parse (text : String) : Except Fault Value :=
  match (document text.toList).run.run {} with
  | (some found, _) => found
  | (none, missed) => .error (.malformed (missed.drawing text.toList))

end ChartDialogue.Markup.Json5
