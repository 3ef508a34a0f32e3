import ChartDialogue.Json.Reader

/-! # Reading typed content from text

Content of a known shape is checked while the text is read, so a shape that is wrong early hides
bad text behind it. A wrong scalar counts as read when the fault is placed, a wrong array or object
does not.
-/

namespace ChartDialogue

def failShape {α : Type} (place : Position) (fault : ShapeFault) : Except JsonError α :=
  .error ⟨.shape fault, some place⟩

def readMismatch {α : Type} (steps : Nat) (expected : Expected) (cursor : Cursor) :
    Except JsonError α := do
  let (found, after) ← match cursor.rest with
    | '[' :: _ => pure (Found.sequence, cursor)
    | '\x7b' :: _ => pure (Found.map, cursor)
    | _ => do
      let (value, after) ← readValue steps 0 cursor
      pure (Found.ofJson value, after)
  failShape after.place (.invalidType found expected)

def readTypedString (steps : Nat) (cursor : Cursor) : Except JsonError (String × Cursor) :=
  let here := cursor.skipBlanks
  match here.rest with
  | [] => failAt here.peek .endOfValue
  | '"' :: _ => readString steps here.next
  | _ => readMismatch steps .aString here

def readTypedList {α : Type} (element : Cursor → Except JsonError (α × Cursor)) (steps : Nat)
    (cursor : Cursor) : Except JsonError (List α × Cursor) :=
  let here := cursor.skipBlanks
  match here.rest with
  | [] => failAt here.peek .endOfValue
  | '[' :: _ => readElements element steps true [] here.next
  | _ => readMismatch steps .aSequence here

def readTextMembers : (steps : Nat) → (first : Bool) → StringMap String → Cursor →
    Except JsonError (StringMap String × Cursor)
  | 0, _, _, cursor => failAt cursor.place .endOfObject
  | steps + 1, first, map, cursor => do
    match ← findKey first cursor with
    | (false, after) => return (map, after)
    | (true, after) =>
      let (key, after) ← readString steps after
      let after ← readColon after
      let (text, after) ← readTypedString steps after
      readTextMembers steps false (map.insert key text) after

def readTextMap (steps : Nat) (cursor : Cursor) :
    Except JsonError (StringMap String × Cursor) :=
  let here := cursor.skipBlanks
  match here.rest with
  | [] => failAt here.peek .endOfValue
  | '\x7b' :: _ => readTextMembers steps true StringMap.empty here.next
  | _ => readMismatch steps .aMap here

def readObject (steps : Nat) (cursor : Cursor) : Except JsonError (Members none × Cursor) := do
  let here := cursor.skipBlanks
  match here.rest with
  | [] => failAt here.peek .endOfValue
  | '\x7b' :: _ =>
    match ← readValue steps depthLimit here with
    | (.object members, after) => return (members, after)
    | (_, after) => failAt after.place .valueExpected
  | _ => readMismatch steps .aMap here

/-! ## Skipping values

A value that nobody asked for is skipped. Its numbers may be of any size and its nesting of any
depth, and surrogates need not be paired. A control character in a string is noticed before it is
read. -/

def skipString : (steps : Nat) → Cursor → Except JsonError Cursor
  | 0, cursor => failAt cursor.place .endOfString
  | steps + 1, cursor =>
    match cursor.rest with
    | [] => failAt cursor.place .endOfString
    | '"' :: _ => .ok cursor.next
    | '\\' :: _ =>
      let escape := cursor.next
      match escape.rest with
      | [] => failAt escape.place .endOfString
      | 'u' :: _ => do
        let (_, after) ← readHex escape.next
        skipString steps after
      | letter :: _ =>
        if (simpleEscape? letter).isSome then skipString steps escape.next
        else failAt escape.peek .invalidEscape
    | character :: _ =>
      if character.toNat < 0x20 then failAt cursor.place .controlCharacter
      else skipString steps cursor.next

def skipExponent (cursor : Cursor) : Except JsonError Cursor :=
  let afterSign := match cursor.rest with
    | '+' :: _ | '-' :: _ => cursor.next
    | _ => cursor
  match afterSign.spanDigits with
  | ([], _) => failAt afterSign.peek .invalidNumber
  | (_, after) => .ok after

def skipNumber (cursor : Cursor) : Except JsonError Cursor :=
  let afterFraction (after : Cursor) : Except JsonError Cursor :=
    match after.rest with
    | 'e' :: _ | 'E' :: _ => skipExponent after.next
    | _ => .ok after
  match cursor.spanDigits with
  | ([], _) => failAt cursor.peek .invalidNumber
  | (0 :: _ :: _, _) => failAt cursor.next.peek .invalidNumber
  | (_, after) =>
    match after.rest with
    | '.' :: _ =>
      match after.next.spanDigits with
      | ([], _) => failAt after.next.peek .invalidNumber
      | (_, behind) => afterFraction behind
    | _ => afterFraction after

def skipElements (skip : Cursor → Except JsonError Cursor) :
    (steps : Nat) → (first : Bool) → Cursor → Except JsonError Cursor
  | 0, _, cursor => failAt cursor.place .endOfList
  | steps + 1, first, cursor =>
    let here := cursor.skipBlanks
    match here.rest with
    | [] => failAt here.peek .endOfList
    | ']' :: _ => .ok here.next
    | character :: _ =>
      if first then do skipElements skip steps false (← skip here)
      else if character = ',' then do skipElements skip steps false (← skip here.next)
      else failAt here.peek .listSeparatorExpected

def skipMembers (skip : Cursor → Except JsonError Cursor) :
    (steps : Nat) → (first : Bool) → Cursor → Except JsonError Cursor
  | 0, _, cursor => failAt cursor.place .endOfObject
  | steps + 1, first, cursor =>
    let here := cursor.skipBlanks
    let skipMember (start : Cursor) : Except JsonError Cursor := do
      let key := start.skipBlanks
      match key.rest with
      | [] => failAt key.peek .endOfObject
      | '"' :: _ =>
        let after ← readColon (← skipString steps key.next)
        skipMembers skip steps false (← skip after)
      | _ => failAt key.peek .keyNotString
    match here.rest with
    | [] => failAt here.peek .endOfObject
    | '\x7d' :: _ => .ok here.next
    | character :: _ =>
      if first then skipMember here
      else if character = ',' then skipMember here.next
      else failAt here.peek .objectSeparatorExpected

def skipValue (steps : Nat) (depth : Nat) (cursor : Cursor) : Except JsonError Cursor :=
  let here := cursor.skipBlanks
  match here.rest with
  | [] => failAt here.peek .endOfValue
  | 'n' :: _ => readLetters here.next ['u', 'l', 'l']
  | 't' :: _ => readLetters here.next ['r', 'u', 'e']
  | 'f' :: _ => readLetters here.next ['a', 'l', 's', 'e']
  | '"' :: _ => skipString steps here.next
  | '[' :: _ =>
    match depth with
    | 0 => failAt here.peek .nestedTooDeep
    | depth + 1 => skipElements (skipValue steps depth) steps true here.next
  | '\x7b' :: _ =>
    match depth with
    | 0 => failAt here.peek .nestedTooDeep
    | depth + 1 => skipMembers (skipValue steps depth) steps true here.next
  | '-' :: _ => skipNumber here.next
  | character :: _ =>
    if character.isDigit then skipNumber here else failAt here.peek .valueExpected

end ChartDialogue
