import ChartDialogue.Markup.Yaml.Place
import ChartDialogue.Number.Digits
import ChartDialogue.Text.Code

/-! # Tags and directives of YAML texts

A tag says what a value is to be taken for, by a handle and a kind. A directive in front of a
document gives the version of the language, or what a handle stands for.
-/

namespace ChartDialogue.Markup.Yaml

def isWordCharacter (character : Char) : Bool :=
  character.isAlphanum || character == '_' || character == '-'

/-- The characters of whole tags. Others are given by the octets of their codes. -/
def isTagCharacter (character : Char) : Bool :=
  isWordCharacter character || "#;/?:@&=+$,.!~*'()[]%".toList.contains character

def isKindCharacter (character : Char) : Bool :=
  isTagCharacter character && ! isFlowMark character && character != '!'

/-! ## Octets -/

def octet (start place : Place) : Except Fault Nat :=
  let value? := match place.rest with
    | '%' :: high :: low :: _ => Digits.natural? 16 [high, low]
    | _ => none
  match value? with
  | some value => .ok value
  | none => fail start "while parsing a tag, did not find URI escaped octet"

def octetCount? (first : Nat) : Option Nat :=
  if first < 0x80 then some 1
  else if first < 0xC0 then none
  else if first < 0xE0 then some 2
  else if first < 0xF0 then some 3
  else if first < 0xF8 then some 4
  else none

def moreOctets (start : Place) : (count : Nat) → (read : Nat) → Place → Except Fault (Nat × Place)
  | 0, read, place => .ok (read, place)
  | count + 1, read, place => do
    let next ← octet start place
    if next < 0x80 ∨ 0xC0 ≤ next then
      fail start "while parsing a tag, found an incorrect trailing UTF-8 octet"
    else moreOctets start count (read * 0x100 + next) (place.skip 3)

def octetCharacter (start place : Place) : Except Fault (Char × Place) := do
  let first ← octet start place
  match octetCount? first with
  | none => fail start "while parsing a tag, found an incorrect leading UTF-8 octet"
  | some count =>
    let (code, behind) ← moreOctets start (count - 1) first (place.skip 3)
    match Text.ofCode? code with
    | some character => return (character, behind)
    | none => fail start "while parsing a tag, found an invalid UTF-8 codepoint"

/-! ## Tags -/

def tagText (test : Char → Bool) (start : Place) : (steps : Nat) → (read : List Char) → Place →
    Except Fault (List Char × Place)
  | 0, read, place => .ok (read.reverse, place)
  | steps + 1, read, place =>
    match place.rest with
    | [] => .ok (read.reverse, place)
    | character :: _ =>
      if ! test character then .ok (read.reverse, place)
      else if character = '%' then do
        let (character, behind) ← octetCharacter start place
        tagText test start steps (character :: read) behind
      else tagText test start steps (character :: read) place.next

/-- The handle at an exclamation mark, and whether it is complete, which is if it ends with another
one. -/
def handle (place : Place) : List Char × Bool × Place :=
  let word := place.next.rest.takeWhile isWordCharacter
  let behind := place.next.skip word.length
  if behind.startsWith '!' then ('!' :: word ++ ['!'], true, behind.next)
  else ('!' :: word, false, behind)

/-- The handle and the kind of a tag, from its mark, and the place behind it. The mark alone is a
kind, and so is what stands between angle brackets. -/
def tagParts (start : Place) : Except Fault (String × String × Place) := do
  let steps := start.rest.length
  if start.next.startsWith '<' then
    let (kind, behind) ← tagText isTagCharacter start steps [] (start.skip 2)
    if behind.startsWith '>' then return ("", String.ofList kind, behind.next)
    else fail start "while scanning a verbatim tag, did not find the expected '>'"
  else
    let (written, complete, behind) := handle start
    let (kind, behind) ← tagText isKindCharacter start steps [] behind
    match complete, written.tail ++ kind with
    | true, _ =>
      if kind.isEmpty then fail start "while parsing a tag, did not find expected tag URI"
      else return (String.ofList written, String.ofList kind, behind)
    | false, [] => return ("", "!", behind)
    | false, kind => return ("!", String.ofList kind, behind)

def tag (inFlow : Bool) (start : Place) : Except Fault (String × String × Place) := do
  let (handle, kind, behind) ← tagParts start
  if endsWord behind.rest ∨ inFlow ∧ behind.rest.head?.any isFlowMark then
    return (handle, kind, behind)
  else fail start "while scanning a tag, did not find expected whitespace or line break"

/-! ## Directives -/

inductive Directive where
  | version
  | handle (handle meaning : String)

def versionNumber (start place : Place) : Except Fault Place :=
  let digits := (place.rest.takeWhile Char.isDigit).length
  if 9 < digits then
    fail start "while scanning a YAML directive, found extremely long version number"
  else if digits = 0 then
    fail start "while scanning a YAML directive, did not find expected version number"
  else .ok (place.skip digits)

def versionText (start place : Place) : Except Fault Place := do
  let behind ← versionNumber start place
  if behind.startsWith '.' then versionNumber start behind.next
  else
    fail start "while scanning a YAML directive, did not find expected digit or '.' character"

def meaning (start place : Place) : Except Fault (String × Place) := do
  if place.rest.head?.any fun first => first == '!' || isKindCharacter first then
    let (read, behind) ← tagText isTagCharacter start place.rest.length [] place
    return (String.ofList read, behind)
  else fail start "invalid global tag character"

def handleText (start place : Place) : Except Fault (Directive × Place) := do
  if ! place.startsWith '!' then
    fail start "while scanning a tag, did not find expected '!'"
  else
    let (written, complete, behind) := handle place
    if ! complete && written != ['!'] then
      fail start "while parsing a tag directive, did not find expected '!'"
    else
      let (meaning, behind) ← meaning start (behind.skipWhile isBlank)
      if endsWord behind.rest then return (.handle (String.ofList written) meaning, behind)
      else fail start "while scanning TAG, did not find expected whitespace or line break"

/-- A directive, from its mark to the end of its line. One with another name gives nothing a
meaning. -/
def directive (start : Place) : Except Fault (Directive × Place) := do
  let name := start.next.rest.takeWhile isWordCharacter
  let behind := start.next.skip name.length
  if name.isEmpty then
    fail start.next "while scanning a directive, could not find expected directive name"
  else if ! endsWord behind.rest then
    fail start.next "while scanning a directive, found unexpected non-alphabetical character"
  else
    let content := behind.skipWhile isBlank
    let (directive, behind) ← match String.ofList name with
      | "YAML" => do pure (.version, ← versionText start content)
      | "TAG" => handleText start content
      | _ => pure (.handle "" "", behind.lineEnd)
    let behind ← behind.restOfLine
    if behind.atLineEnd then return (directive, behind.next)
    else fail start "while scanning a directive, did not find expected comment or line break"

end ChartDialogue.Markup.Yaml
