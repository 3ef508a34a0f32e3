import ChartDialogue.Json.Reader
import ChartDialogue.Text.Quoted

/-! # Places in RON texts

What can be wrong with a text, and what is read between values: blanks, comments, single marks and
names. Columns count the bytes of a line from one.
-/

namespace ChartDialogue.Markup.Ron

inductive Reason where
  | endOfText
  /-- A character that nothing starts with, shown as the one with the code of its first byte. -/
  | unexpected (byte : Char)
  | expectedComma
  | expectedColon
  | expectedName
  | unmarkedName (name : String)
  | expectedOption
  | expectedOptionEnd
  | expectedCharacter
  | expectedString
  | expectedStringEnd
  | expectedFloat
  | underscore
  | hexDigit
  | escapeLetter
  | escapeOpening
  | escapeDigits
  | escapeClosing
  | escapeCode
  | openComment
  | nesting
  | trailing
  | expectedAttribute
  | expectedAttributeEnd
  | unknownExtension (name : String)
deriving DecidableEq

def isNameStart (character : Char) : Bool := character.isAlpha || character == '_'
def isNameCharacter (character : Char) : Bool := character.isAlphanum || character == '_'

def isMarkedNameCharacter (character : Char) : Bool :=
  isNameCharacter character || character == '.' || character == '+' || character == '-'

def writtenName (name : String) : String :=
  if name.toList.head?.any isNameStart ∧ name.toList.all isNameCharacter then
    "\x60" ++ name ++ "\x60"
  else "\x60r#" ++ name ++ "\x60"

def Reason.message : Reason → String
  | .endOfText => "Unexpected end of RON"
  | .unexpected byte => "Unexpected byte " ++ Text.quotedCharacter byte
  | .expectedComma => "Expected comma"
  | .expectedColon => "Expected colon"
  | .expectedName => "Expected identifier"
  | .unmarkedName name =>
    "Found invalid std identifier \x60" ++ name ++ "\x60, try the raw identifier \x60r#" ++ name ++
      "\x60 instead"
  | .expectedOption => "Expected option"
  | .expectedOptionEnd => "Expected closing \x60)\x60"
  | .expectedCharacter => "Expected char"
  | .expectedString => "Expected string"
  | .expectedStringEnd => "Expected end of string"
  | .expectedFloat => "Expected float"
  | .underscore => "Unexpected underscore in float"
  | .hexDigit => "Non-hex digit found"
  | .escapeLetter => "Unknown escape character"
  | .escapeOpening => "Missing \x7b in Unicode escape"
  | .escapeDigits => "Expected 1-6 digits, got 0 digits in Unicode escape"
  | .escapeClosing => "No \x7d at the end of Unicode escape"
  | .escapeCode => "Not a valid char"
  | .openComment => "Unclosed block comment"
  | .nesting => "Exceeded recursion limit, try increasing the limit and using " ++
      "\x60serde_stacker\x60 to protect against a stack overflow"
  | .trailing => "Non-whitespace trailing characters"
  | .expectedAttribute => "Expected an \x60#![enable(...)]\x60 attribute"
  | .expectedAttributeEnd => "Expected closing \x60)]\x60 after the enable attribute"
  | .unknownExtension name => "No RON extension named " ++ writtenName name

inductive Fault where
  | malformed (reason : Reason) (place : Position)
  | noKey (found : String)
deriving DecidableEq

def Fault.message : Fault → String
  | .malformed reason place =>
    toString place.line ++ ":" ++ toString (place.column + 1) ++ ": " ++ reason.message
  | .noKey found => "Expected a string but found " ++ found ++ " instead"

def fail {α : Type} (cursor : Cursor) (reason : Reason) : Except Fault α :=
  .error (.malformed reason cursor.place)

/-! ## Steps -/

def skip (cursor : Cursor) : (count : Nat) → Cursor
  | 0 => cursor
  | count + 1 => skip cursor.next count

/-- The cursor behind the first byte of the next character. Within a character nothing can be
read. -/
def behindByte (cursor : Cursor) : Cursor :=
  match cursor.rest with
  | [] => cursor
  | character :: rest => ⟨if character.utf8Size = 1 then rest else [], cursor.peek⟩

def firstByte (character : Char) : Char :=
  let code := character.toNat
  if code < 0x80 then character
  else if code < 0x800 then Char.ofNat (0xC0 + code / 0x40)
  else if code < 0x10000 then Char.ofNat (0xE0 + code / 0x1000)
  else Char.ofNat (0xF0 + code / 0x40000)

example : firstByte 'a' = 'a' ∧ firstByte 'é' = 'Ã' ∧ firstByte '€' = 'â' := by decide

def behind? (part : String) (cursor : Cursor) : Option Cursor :=
  if part.toList.isPrefixOf cursor.rest then some (skip cursor part.length) else none

def behindWord? (word : String) (cursor : Cursor) : Option Cursor :=
  (behind? word cursor).filter fun behind => ! behind.rest.head?.any isNameCharacter

/-! ## Blanks and comments -/

def blockComment : (steps : Nat) → (depth : Nat) → Cursor → Option Reason × Cursor
  | 0, _, cursor => (some .openComment, cursor)
  | _, 0, cursor => (none, cursor)
  | steps + 1, depth + 1, cursor =>
    match cursor.rest with
    | '/' :: '*' :: _ => blockComment steps (depth + 2) (skip cursor 2)
    | '*' :: '/' :: _ => blockComment steps depth (skip cursor 2)
    | _ :: _ => blockComment steps (depth + 1) cursor.next
    | [] => (some .openComment, cursor)

/-- The cursor behind blanks and comments, or where a comment is none, and why. -/
def pastBlanks : (steps : Nat) → Cursor → Option Reason × Cursor
  | 0, cursor => (none, cursor)
  | steps + 1, cursor =>
    let behind := cursor.skipBlanks
    match behind.rest with
    | ['/'] => (some .endOfText, behind.next)
    | '/' :: '/' :: rest =>
      pastBlanks steps (skip behind ((rest.takeWhile (· ≠ '\n')).length + 2))
    | '/' :: '*' :: rest =>
      match blockComment (rest.length + 2) 1 (skip behind 2) with
      | (none, behind) => pastBlanks steps behind
      | fault => fault
    | '/' :: other :: _ => (some (.unexpected (firstByte other)), behindByte behind.next)
    | _ => (none, behind)

def skipBlanks (cursor : Cursor) : Except Fault Cursor :=
  match pastBlanks (cursor.rest.length + 1) cursor with
  | (none, behind) => .ok behind
  | (some reason, behind) => fail behind reason

def comma (cursor : Cursor) : Except Fault (Bool × Cursor) := do
  let cursor ← skipBlanks cursor
  match behind? "," cursor with
  | some behind => return (true, ← skipBlanks behind)
  | none => return (false, cursor)

/-! ## Names -/

/-- A name. A mark in front lets it start with any of its characters, and hold more of them. -/
def name (cursor : Cursor) : Except Fault (String × Cursor) :=
  match cursor.rest with
  | [] | ['r'] => fail cursor .endOfText
  | 'r' :: '"' :: _ => fail cursor .expectedName
  | 'r' :: '#' :: rest =>
    let marked := rest.takeWhile isMarkedNameCharacter
    if marked.isEmpty then fail cursor .expectedName
    else .ok (String.ofList marked, skip cursor (marked.length + 2))
  | first :: rest =>
    let plain := (first :: rest).takeWhile isNameCharacter
    let marked := (first :: rest).takeWhile isMarkedNameCharacter
    if marked.isEmpty then fail cursor .expectedName
    else if isNameStart first ∧ plain.length = marked.length then
      .ok (String.ofList plain, skip cursor plain.length)
    else fail cursor (.unmarkedName (String.ofList marked))

end ChartDialogue.Markup.Ron
