import ChartDialogue.Markup.Ron.Node
import ChartDialogue.Markup.Ron.Place
import ChartDialogue.Number.Word
import ChartDialogue.Text.Code

/-! # Scalars of RON texts

Strings with and without escapes, characters, and numbers. What starts like an integer and is none
is read once more as a floating-point number.
-/

namespace ChartDialogue.Markup.Ron

/-! ## Escapes -/

def expect (wanted : Char) (reason : Reason) (cursor : Cursor) : Except Fault Cursor :=
  match cursor.rest with
  | [] => fail cursor .endOfText
  | character :: _ =>
    if character = wanted then .ok cursor.next else fail (behindByte cursor) reason

def hexDigit (cursor : Cursor) : Except Fault (Nat × Cursor) :=
  match cursor.rest with
  | [] => fail cursor .endOfText
  | character :: _ =>
    match Digits.value? character with
    | some digit => .ok (digit, cursor.next)
    | none => fail (behindByte cursor) .hexDigit

def codeDigits : (most : Nat) → (read code : Nat) → Cursor → Except Fault (Nat × Nat × Cursor)
  | 0, read, code, cursor => .ok (read, code, cursor)
  | most + 1, read, code, cursor =>
    if cursor.rest.head? = some '\x7d' then .ok (read, code, cursor)
    else do
      let (digit, behind) ← hexDigit cursor
      codeDigits most (read + 1) (code * 16 + digit) behind

def codeEscape (cursor : Cursor) : Except Fault (Char × Cursor) := do
  let (read, code, behind) ← codeDigits 6 0 0 (← expect '\x7b' .escapeOpening cursor)
  if read = 0 then fail behind .escapeDigits
  else
    let behind ← expect '\x7d' .escapeClosing behind
    match Text.ofCode? code with
    | some character => return (character, behind)
    | none => fail behind .escapeCode

def letterEscapes : List (Char × Char) := [
  ('\'', '\''), ('"', '"'), ('\\', '\\'), ('n', '\n'), ('r', '\r'), ('t', '\t'), ('0', '\x00')]

def escape (cursor : Cursor) : Except Fault (Char × Cursor) :=
  match cursor.rest with
  | [] => fail cursor .endOfText
  | 'x' :: _ => do
    let (high, behind) ← hexDigit cursor.next
    let (low, behind) ← hexDigit behind
    return (Char.ofNat (high * 16 + low), behind)
  | 'u' :: _ => codeEscape cursor.next
  | letter :: _ =>
    match letterEscapes.lookup letter with
    | some character => .ok (character, cursor.next)
    | none => fail (behindByte cursor) .escapeLetter

/-! ## Strings -/

/-- The text up to the closing quote. `read` holds what stands before, and `missing` is the reason
if there is no such quote. -/
def quotedText : (steps : Nat) → (read : List Char) → (missing : Reason) → Cursor →
    Except Fault (String × Cursor)
  | 0, _, missing, cursor => fail cursor missing
  | steps + 1, read, missing, cursor =>
    let plain := cursor.rest.takeWhile fun character => ¬ (character = '"' ∨ character = '\\')
    let behind := skip cursor plain.length
    match behind.rest with
    | [] => fail cursor missing
    | '"' :: _ => .ok (String.ofList (read ++ plain), behind.next)
    | _ => do
      let (character, behind) ← escape behind.next
      quotedText steps (read ++ plain ++ [character]) .endOfText behind

def lengthBefore? (part : List Char) : List Char → Option Nat
  | [] => none
  | character :: rest =>
    if part.isPrefixOf (character :: rest) then some 0
    else (lengthBefore? part rest).map (· + 1)

/-- A string without escapes, from behind its first letter. The marks before its opening quote stand
behind the closing one as well. -/
def rawText (cursor : Cursor) : Except Fault (String × Cursor) :=
  let marks := cursor.rest.takeWhile (· = '#')
  let behind := skip cursor marks.length
  match behind? "\"" behind with
  | none => fail behind .expectedString
  | some inner =>
    match lengthBefore? ('"' :: marks) inner.rest with
    | none => fail inner .expectedStringEnd
    | some length =>
      .ok (String.ofList (inner.rest.take length), skip inner (length + 1 + marks.length))

example : lengthBefore? ['"', '#'] "a\"b\"#".toList = some 3 := by decide +kernel

def character (cursor : Cursor) : Except Fault (Char × Cursor) := do
  match cursor.rest with
  | [] => fail cursor .endOfText
  | '\\' :: _ => do
    let (character, behind) ← escape cursor.next
    match behind? "'" behind with
    | some behind => return (character, behind)
    | none => fail behind .expectedCharacter
  | '\'' :: _ => fail cursor .expectedCharacter
  | character :: '\'' :: _ => return (character, skip cursor 2)
  | _ => fail cursor .expectedCharacter

/-! ## Numbers -/

def isFloatCharacter (character : Char) : Bool :=
  character.isDigit || ['e', 'E', '.', '+', '-', '_'].contains character

def isIntegerCharacter (character : Char) : Bool :=
  Digits.isDigit 16 character || character == '_'

/-- The base of an integer, and the length of the mark in front that tells it. -/
def baseOf : List Char → Nat × Nat
  | '0' :: 'x' :: _ => (16, 2)
  | '0' :: 'b' :: _ => (2, 2)
  | '0' :: 'o' :: _ => (8, 2)
  | _ => (10, 0)

def isSign (character : Char) : Bool := character == '+' || character == '-'

/-- The node of an integer, and the cursor behind it. Where there is no integer, the cursor is where
this was noticed. One with a sign fits into a signed word, and others into an unsigned one. -/
def integer (cursor : Cursor) : Option Node × Cursor :=
  let signed := cursor.rest.head?.any isSign
  let start := if signed then cursor.next else cursor
  let (base, mark) := baseOf start.rest
  let start := skip start mark
  let digits := start.rest.takeWhile isIntegerCharacter
  if digits.head?.all (· = '_') then (none, start)
  else
    let node := match Digits.natural? base (digits.filter (· ≠ '_')) with
      | none => none
      | some magnitude =>
        let value := Digits.withSign (cursor.rest.head? = some '-') magnitude
        if Word.fitsSigned value then some (.integer value)
        else if ! signed && decide (magnitude < Word.limit) then
          some (.float (.ofDecimal false magnitude 0))
        else none
    (node, skip start digits.length)

def floatWords : List (String × FloatValue) := [
  ("inf", .infinite false), ("+inf", .infinite false), ("-inf", .infinite true),
  ("NaN", .undefined), ("+NaN", .undefined), ("-NaN", .undefined)]

def wordAmong? {α : Type} (words : List (String × α)) (cursor : Cursor) : Option (α × Cursor) :=
  words.findSome? fun (word, meaning) =>
    (behindWord? word cursor).map fun behind => (meaning, behind)

def float (cursor : Cursor) : Except Fault (FloatValue × Cursor) :=
  match wordAmong? floatWords cursor with
  | some found => .ok found
  | none =>
    let digits := cursor.rest.takeWhile isFloatCharacter
    if digits.contains '_' then
      fail (skip cursor (digits.takeWhile (· ≠ '_')).length) .underscore
    else
      let behind := skip cursor digits.length
      match FloatValue.ofText? (String.ofList digits) with
      | some value => .ok (value, behind)
      | none => fail behind .expectedFloat

/-- A number. The columns that an attempt to read an integer took are counted twice. -/
def number (cursor : Cursor) : Except Fault (Node × Cursor) := do
  let digits := if cursor.rest.head?.any isSign then cursor.rest.tail else cursor.rest
  let asFloat (cursor : Cursor) : Except Fault (Node × Cursor) := do
    let (value, behind) ← float cursor
    return (.float value, behind)
  if (digits.takeWhile isIntegerCharacter).length < (digits.takeWhile isFloatCharacter).length then
    asFloat cursor
  else match integer cursor with
    | (some node, behind) => return (node, behind)
    | (none, reached) => asFloat ⟨cursor.rest, reached.place⟩

end ChartDialogue.Markup.Ron
