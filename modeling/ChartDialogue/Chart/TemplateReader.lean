import ChartDialogue.Chart.Template
import ChartDialogue.Json.TypedReader

/-! # Reading templates from text

A file of templates is a list of records. A record is an object, whose members may come in any
order and only once each, or an array of its fields.
-/

namespace ChartDialogue

/-- Where the next element starts, or nothing at the closing bracket. -/
def findElement (first : Bool) (cursor : Cursor) : Except JsonError (Option Cursor) :=
  let here := cursor.skipBlanks
  match here.rest with
  | [] => failAt here.peek .endOfList
  | ']' :: _ => .ok none
  | character :: _ =>
    if first then .ok (some here)
    else if character = ',' then
      let behind := here.next.skipBlanks
      match behind.rest with
      | [] => failAt behind.peek .endOfValue
      | ']' :: _ => failAt behind.peek .trailingComma
      | _ => .ok (some behind)
    else failAt here.peek .listSeparatorExpected

def closeRecord (cursor : Cursor) : Except JsonError Cursor :=
  let here := cursor.skipBlanks
  match here.rest with
  | [] => failAt here.peek .endOfList
  | ']' :: _ => .ok here.next
  | ',' :: _ =>
    let behind := here.next.skipBlanks
    match behind.rest with
    | ']' :: _ => failAt behind.peek .trailingComma
    | _ => failAt behind.peek .trailingCharacters
  | _ => failAt here.peek .trailingCharacters

namespace Template

def readPositioned {α : Type} (index : Nat) (field : Cursor → Except JsonError (α × Cursor))
    (cursor : Cursor) : Except JsonError (α × Cursor) := do
  match ← findElement (index == 0) cursor with
  | some start => field start
  | none =>
    failShape cursor.skipBlanks.next.place
      (.invalidLength index (.recordOf shape.name shape.fields))

def readElements (steps : Nat) (cursor : Cursor) : Except JsonError (Template × Cursor) := do
  let (mark, after) ← readPositioned 0 (readTypedString steps) cursor
  let (encoding, after) ← readPositioned 1 (readTextMap steps) after
  let behind ← closeRecord after
  return (⟨mark, encoding⟩, behind)

/-- The fault of a field that comes twice, noticed behind the key. -/
def failRepeated {α : Type} (name : String) (cursor : Cursor) : Except JsonError α :=
  let behind := cursor.skipBlanks
  match behind.rest with
  | '\x7d' :: _ => failShape behind.next.place (.duplicateField name)
  | _ => failShape behind.place (.duplicateField name)

def ofFields (mark : Option String) (encoding : Option (StringMap String)) (after : Cursor) :
    Except JsonError (Template × Cursor) :=
  match mark, encoding with
  | some mark, some encoding => .ok (⟨mark, encoding⟩, after)
  | none, _ => failShape after.place (.missingField "mark")
  | _, none => failShape after.place (.missingField "encoding")

/-- A template written as an object, from behind the brace or a member. -/
def readMembers : (steps : Nat) → (first : Bool) → Option String → Option (StringMap String) →
    Cursor → Except JsonError (Template × Cursor)
  | 0, _, _, _, cursor => failAt cursor.place .endOfObject
  | steps + 1, first, mark, encoding, cursor => do
    match ← findKey first cursor with
    | (false, after) => ofFields mark encoding after
    | (true, after) =>
      let (key, after) ← readString steps after
      if key = "mark" then
        if mark.isSome then failRepeated key after
        else
          let (text, after) ← readTypedString steps (← readColon after)
          readMembers steps false (some text) encoding after
      else if key = "encoding" then
        if encoding.isSome then failRepeated key after
        else
          let (map, after) ← readTextMap steps (← readColon after)
          readMembers steps false mark (some map) after
      else
        let after ← skipValue steps steps (← readColon after)
        readMembers steps false mark encoding after

def read (steps : Nat) (cursor : Cursor) : Except JsonError (Template × Cursor) :=
  let here := cursor.skipBlanks
  match here.rest with
  | [] => failAt here.peek .endOfValue
  | '[' :: _ => readElements steps here.next
  | '\x7b' :: _ => readMembers steps true none none here.next
  | _ => readMismatch steps (.record shape.name) here

def parseList (text : String) : Except JsonError (List Template) :=
  readWhole (fun steps cursor => readTypedList (read steps) steps cursor) text

end Template

end ChartDialogue
