import ChartDialogue.Json.Error
import ChartDialogue.Text.Code

/-! # Reading JSON text

A depth-first reader. Nesting is limited by a depth budget, which is what the recursion over values
goes by; the loops over elements and members are bounded by the length of the text.
-/

namespace ChartDialogue

/-! ## Cursors -/

def Position.start : Position := ⟨1, 0⟩

def Position.afterByte (place : Position) (character : Char) : Position :=
  if character = '\n' then ⟨place.line + 1, 0⟩ else ⟨place.line, place.column + 1⟩

def Position.after (place : Position) (character : Char) : Position :=
  if character = '\n' then ⟨place.line + 1, 0⟩
  else ⟨place.line, place.column + character.utf8Size⟩

/-- The place after some bytes of the characters ahead; the last one may be cut. -/
def Position.afterBytes (place : Position) : (bytes : Nat) → List Char → Position
  | 0, _ => place
  | _, [] => place
  | bytes, character :: rest =>
    if character.utf8Size ≤ bytes then
      (place.after character).afterBytes (bytes - character.utf8Size) rest
    else ⟨place.line, place.column + bytes⟩

/-- The characters not yet read and the place before the first of them. -/
structure Cursor where
  rest : List Char
  place : Position

namespace Cursor

/-- The place one byte further on, or the end. -/
def peek (cursor : Cursor) : Position :=
  match cursor.rest with
  | [] => cursor.place
  | character :: _ => cursor.place.afterByte character

def next (cursor : Cursor) : Cursor :=
  match cursor.rest with
  | [] => cursor
  | character :: rest => ⟨rest, cursor.place.after character⟩

end Cursor

def isJsonBlank (character : Char) : Bool :=
  character == ' ' || character == '\t' || character == '\n' || character == '\r'

def skipBlanksFrom : List Char → Position → Cursor
  | [], place => ⟨[], place⟩
  | character :: rest, place =>
    if isJsonBlank character then skipBlanksFrom rest (place.after character)
    else ⟨character :: rest, place⟩

def Cursor.skipBlanks (cursor : Cursor) : Cursor := skipBlanksFrom cursor.rest cursor.place

def failAt {α : Type} (place : Position) (fault : TextFault) : Except JsonError α :=
  .error ⟨.text fault, some place⟩

/-! ## Words -/

def readLetters (cursor : Cursor) : List Char → Except JsonError Cursor
  | [] => .ok cursor
  | letter :: letters =>
    match cursor.rest with
    | [] => failAt cursor.place .endOfValue
    | character :: _ =>
      if character = letter then readLetters cursor.next letters
      else failAt cursor.peek .identExpected

def readWord {α : Type} (value : α) (word : List Char) (cursor : Cursor) :
    Except JsonError (α × Cursor) := do
  let after ← readLetters cursor word
  return (value, after)

/-! ## Numbers

The digits are collected in one word as long as they fit. Digits of the whole part that do not fit
count as powers of ten, digits of the fraction that do not fit are dropped. Scaling takes one
rounded multiplication or division by a power of ten. -/

def digitValue? (character : Char) : Option Nat := (Digits.value? character).filter (· < 10)

def spanDigits : List Char → List Nat × List Char
  | [] => ([], [])
  | character :: rest =>
    match digitValue? character with
    | none => ([], character :: rest)
    | some digit =>
      let (digits, after) := spanDigits rest
      (digit :: digits, after)

def Cursor.spanDigits (cursor : Cursor) : List Nat × Cursor :=
  let (digits, after) := ChartDialogue.spanDigits cursor.rest
  (digits, ⟨after, ⟨cursor.place.line, cursor.place.column + digits.length⟩⟩)

/-- Digits appended to a word up to the first one that does not fit; the digits left over. -/
def absorb (limit : Nat) : (word : Nat) → List Nat → Nat × List Nat
  | word, [] => (word, [])
  | word, digit :: digits =>
    let longer := word * 10 + digit
    if longer < limit then absorb limit longer digits else (word, digit :: digits)

def largestTenPower : Nat := 308

def tenPowerDouble (exponent : Nat) : Double :=
  (Double.ofQuotient? false (Nat.pow 10 exponent) 1).getD Double.zero

/-- A double divided by a power of ten, in steps that are doubles themselves. -/
def scaleDown (number : Double) (exponent : Nat) : Double :=
  if exponent ≤ largestTenPower then
    (number.div? (tenPowerDouble exponent)).getD Double.zero
  else if number.isZero then number
  else
    scaleDown ((number.div? (tenPowerDouble largestTenPower)).getD Double.zero)
      (exponent - largestTenPower)
termination_by exponent
decreasing_by simp only [largestTenPower] at *; omega

/-- A word times a power of ten; nothing if it is too large for a double. -/
def scaleWord? (word : Nat) (exponent : Int) : Option Double :=
  let number := (Double.ofNat? word).getD Double.zero
  if exponent < 0 then some (scaleDown number exponent.natAbs)
  else if exponent.natAbs ≤ largestTenPower then
    number.mul? (tenPowerDouble exponent.natAbs)
  else if number.isZero then some number
  else none

def exponentLimit : Nat := 0x80000000

def finishDouble (negative : Bool) (word : Nat) (exponent : Int) (cursor : Cursor) :
    Except JsonError (Number × Cursor) :=
  match scaleWord? word exponent with
  | none => failAt cursor.place .numberOutOfRange
  | some number => .ok (.double (number.withSign negative), cursor)

/-- The exponent part, from behind its letter. A huge exponent is an error only if it is positive
and the digits are not all zero. -/
def readExponent (negative : Bool) (word : Nat) (scale : Int) (cursor : Cursor) :
    Except JsonError (Number × Cursor) :=
  let (lowers, afterSign) : Bool × Cursor := match cursor.rest with
    | '+' :: _ => (false, cursor.next)
    | '-' :: _ => (true, cursor.next)
    | _ => (false, cursor)
  match afterSign.spanDigits with
  | ([], _) =>
    match afterSign.rest with
    | [] => failAt afterSign.place .endOfValue
    | _ => failAt afterSign.peek .invalidNumber
  | (digits, after) =>
    match absorb exponentLimit 0 digits with
    | (exponent, []) =>
      finishDouble negative word (if lowers then scale - exponent else scale + exponent) after
    | (_, _ :: unread) =>
      if word ≠ 0 ∧ ¬ lowers then
        failAt ⟨after.place.line, after.place.column - unread.length⟩ .numberOutOfRange
      else .ok (.double (Double.zero.withSign negative), after)

def readAfterDigits (negative : Bool) (word : Nat) (scale : Int) (cursor : Cursor) :
    Except JsonError (Number × Cursor) :=
  match cursor.rest with
  | 'e' :: _ | 'E' :: _ => readExponent negative word scale cursor.next
  | _ => finishDouble negative word scale cursor

def readFraction (negative : Bool) (word : Nat) (scale : Int) (cursor : Cursor) :
    Except JsonError (Number × Cursor) :=
  match cursor.spanDigits with
  | ([], _) =>
    failAt cursor.peek (if cursor.rest.isEmpty then .endOfValue else .invalidNumber)
  | (digits, after) =>
    let (longer, dropped) := absorb Word.limit word digits
    readAfterDigits negative longer (scale - (digits.length - dropped.length : Nat)) after

/-- A whole number that fits a word. Minus zero, and what lies below the signed words, are
doubles. -/
def wholeNumber (negative : Bool) (word : Nat) : Number :=
  let value : Int := if negative then - (word : Int) else word
  match WordInteger.ofInt? value with
  | some integer =>
    if negative ∧ word = 0 then .double (Double.zero.withSign true) else .integer integer
  | none => .double ((Double.ofQuotient? negative word 1).getD Double.zero)

def readNumber (negative : Bool) (cursor : Cursor) : Except JsonError (Number × Cursor) :=
  match cursor.spanDigits with
  | ([], _) =>
    match cursor.rest with
    | [] => failAt cursor.place .endOfValue
    | _ => failAt cursor.peek .invalidNumber
  | (0 :: _ :: _, _) => failAt cursor.next.peek .invalidNumber
  | (digits, after) =>
    let (word, dropped) := absorb Word.limit 0 digits
    match after.rest with
    | '.' :: _ => readFraction negative word dropped.length after.next
    | 'e' :: _ | 'E' :: _ => readExponent negative word dropped.length after.next
    | _ =>
      if dropped.isEmpty then .ok (wholeNumber negative word, after)
      else finishDouble negative word dropped.length after

/-! ## Strings -/

/-- Four hexadecimal digits. They are cut from the bytes ahead, four at a time. -/
def readHex (cursor : Cursor) : Except JsonError (Nat × Cursor) :=
  match cursor.rest with
  | first :: second :: third :: fourth :: rest =>
    let after := cursor.place.afterBytes 4 cursor.rest
    match Digits.natural? 16 [first, second, third, fourth] with
    | some unit => .ok (unit, ⟨rest, after⟩)
    | none => failAt after .invalidEscape
  | short =>
    let bytes := (String.ofList short).utf8ByteSize
    failAt (cursor.place.afterBytes (min bytes 4) short)
      (if bytes < 4 then .endOfString else .invalidEscape)

def expectHalf (character : Char) (cursor : Cursor) : Except JsonError Cursor :=
  match cursor.rest with
  | [] => failAt cursor.place .endOfString
  | other :: _ =>
    if other = character then .ok cursor.next else failAt cursor.peek .endOfHexEscape

def readUnicodeEscape (cursor : Cursor) : Except JsonError (Char × Cursor) := do
  let (unit, after) ← readHex cursor
  if 0xDC00 ≤ unit ∧ unit ≤ 0xDFFF then failAt after.place .loneSurrogate
  else if unit < 0xD800 ∨ 0xDBFF < unit then return (Char.ofNat unit, after)
  else
    let after ← expectHalf '\\' after
    let after ← expectHalf 'u' after
    let (second, after) ← readHex after
    if second < 0xDC00 ∨ 0xDFFF < second then failAt after.place .loneSurrogate
    else return (Text.ofHalves unit second, after)

def simpleEscape? : Char → Option Char
  | '"' => some '"'
  | '\\' => some '\\'
  | '/' => some '/'
  | 'b' => some '\x08'
  | 'f' => some '\x0c'
  | 'n' => some '\n'
  | 'r' => some '\r'
  | 't' => some '\t'
  | _ => none

def readStringCharacter (cursor : Cursor) : Except JsonError (Option Char × Cursor) :=
  match cursor.rest with
  | [] => failAt cursor.place .endOfString
  | '"' :: _ => .ok (none, cursor.next)
  | '\\' :: _ =>
    let escape := cursor.next
    match escape.rest with
    | [] => failAt escape.place .endOfString
    | 'u' :: _ => do
      let (character, after) ← readUnicodeEscape escape.next
      return (some character, after)
    | letter :: _ =>
      match simpleEscape? letter with
      | some character => .ok (some character, escape.next)
      | none => failAt escape.peek .invalidEscape
  | character :: _ =>
    if character.toNat < 0x20 then failAt cursor.peek .controlCharacter
    else .ok (some character, cursor.next)

def readStringBody : (steps : Nat) → (reversed : List Char) → Cursor →
    Except JsonError (List Char × Cursor)
  | 0, _, cursor => failAt cursor.place .endOfString
  | steps + 1, reversed, cursor => do
    match ← readStringCharacter cursor with
    | (none, after) => return (reversed.reverse, after)
    | (some character, after) => readStringBody steps (character :: reversed) after

def readString (steps : Nat) (cursor : Cursor) : Except JsonError (String × Cursor) := do
  let (characters, after) ← readStringBody steps [] cursor
  return (String.ofList characters, after)

/-! ## Arrays and objects -/

def readElements {α : Type} (element : Cursor → Except JsonError (α × Cursor)) :
    (steps : Nat) → (first : Bool) → (reversed : List α) → Cursor →
      Except JsonError (List α × Cursor)
  | 0, _, _, cursor => failAt cursor.place .endOfList
  | steps + 1, first, reversed, cursor =>
    let here := cursor.skipBlanks
    match here.rest with
    | [] => failAt here.peek .endOfList
    | ']' :: _ => .ok (reversed.reverse, here.next)
    | character :: _ =>
      if first then do
        let (value, after) ← element here
        readElements element steps false (value :: reversed) after
      else if character = ',' then
        let behind := here.next.skipBlanks
        match behind.rest with
        | [] => failAt behind.peek .endOfValue
        | ']' :: _ => failAt behind.peek .trailingComma
        | _ => do
          let (value, after) ← element behind
          readElements element steps false (value :: reversed) after
      else failAt here.peek .listSeparatorExpected

def readColon (cursor : Cursor) : Except JsonError Cursor :=
  let here := cursor.skipBlanks
  match here.rest with
  | ':' :: _ => .ok here.next
  | [] => failAt here.peek .endOfObject
  | _ => failAt here.peek .colonExpected

/-- The place of the next key, or nothing at the closing brace; from behind the opening brace or
behind a member. -/
def findKey (first : Bool) (cursor : Cursor) : Except JsonError (Bool × Cursor) :=
  let here := cursor.skipBlanks
  match here.rest with
  | [] => failAt here.peek .endOfObject
  | '\x7d' :: _ => .ok (false, here.next)
  | character :: _ =>
    if first then
      if character = '"' then .ok (true, here.next) else failAt here.peek .keyNotString
    else if character = ',' then
      let behind := here.next.skipBlanks
      match behind.rest with
      | [] => failAt behind.peek .endOfValue
      | '"' :: _ => .ok (true, behind.next)
      | '\x7d' :: _ => failAt behind.peek .trailingComma
      | _ => failAt behind.peek .keyNotString
    else failAt here.peek .objectSeparatorExpected

def readMembers (value : Cursor → Except JsonError (Json × Cursor)) :
    (steps : Nat) → (first : Bool) → Members none → Cursor →
      Except JsonError (Members none × Cursor)
  | 0, _, _, cursor => failAt cursor.place .endOfObject
  | steps + 1, first, members, cursor => do
    match ← findKey first cursor with
    | (false, after) => return (members, after)
    | (true, after) =>
      let (key, after) ← readString steps after
      let after ← readColon after
      let (member, after) ← value after
      readMembers value steps false (members.insert key (above_none key) member) after

/-! ## Values -/

/-- A value with at most `depth` nested arrays and objects. -/
def readValue (steps : Nat) (depth : Nat) (cursor : Cursor) : Except JsonError (Json × Cursor) :=
  let here := cursor.skipBlanks
  match here.rest with
  | [] => failAt here.peek .endOfValue
  | 'n' :: _ => readWord .null ['u', 'l', 'l'] here.next
  | 't' :: _ => readWord (.bool true) ['r', 'u', 'e'] here.next
  | 'f' :: _ => readWord (.bool false) ['a', 'l', 's', 'e'] here.next
  | '"' :: _ => do
    let (text, after) ← readString steps here.next
    return (.string text, after)
  | '[' :: _ =>
    match depth with
    | 0 => failAt here.peek .nestedTooDeep
    | depth + 1 => do
      let (elements, after) ← readElements (readValue steps depth) steps true [] here.next
      return (.array elements, after)
  | '\x7b' :: _ =>
    match depth with
    | 0 => failAt here.peek .nestedTooDeep
    | depth + 1 => do
      let (members, after) ← readMembers (readValue steps depth) steps true .nil here.next
      return (.object members, after)
  | '-' :: _ => do
    let (number, after) ← readNumber true here.next
    return (.number number, after)
  | character :: _ =>
    if character.isDigit then do
      let (number, after) ← readNumber false here
      return (.number number, after)
    else failAt here.peek .valueExpected

def depthLimit : Nat := 127

/-- A bound on the loops over a text. -/
def stepLimit (text : List Char) : Nat := text.length + 1

def readWhole {α : Type} (value : (steps : Nat) → Cursor → Except JsonError (α × Cursor))
    (text : String) : Except JsonError α := do
  let characters := text.toList
  let (result, after) ← value (stepLimit characters) ⟨characters, Position.start⟩
  let behind := after.skipBlanks
  match behind.rest with
  | [] => return result
  | _ => failAt behind.peek .trailingCharacters

def Json.parse (text : String) : Except JsonError Json :=
  readWhole (fun steps cursor => readValue steps depthLimit cursor) text

example : (Json.parse " [1, \x7b\"a\": -0\x7d]").toOption.map Json.compact =
    some "[1,\x7b\"a\":-0.0\x7d]" := by decide +kernel

end ChartDialogue
