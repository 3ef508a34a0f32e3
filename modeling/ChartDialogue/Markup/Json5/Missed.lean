/-! # What JSON5 texts lack

A text that is no JSON5 is faulted for the parts that were looked for in vain at the furthest place
at which any was. The fault shows the line of that place.
-/

namespace ChartDialogue.Markup.Json5

inductive Part where
  | textEnd
  | array
  | boolean
  | characterEscape
  | character
  | hexEscape
  | identifier
  | zeroEscape
  | null
  | number
  | object
  | string
  | unicodeEscape
deriving DecidableEq, Repr

namespace Part

def name : Part → String
  | textEnd => "EOI"
  | array => "array"
  | boolean => "boolean"
  | characterEscape => "char_escape_sequence"
  | character => "char_literal"
  | hexEscape => "hex_escape_sequence"
  | identifier => "identifier"
  | zeroEscape => "nul_escape_sequence"
  | null => "null"
  | number => "number"
  | object => "object"
  | string => "string"
  | unicodeEscape => "unicode_escape_sequence"

def all : List Part := [textEnd, array, boolean, characterEscape, character, hexEscape, identifier,
  zeroEscape, null, number, object, string, unicodeEscape]

end Part

/-- The parts that were missed at the furthest place at which any part was. -/
structure Missed where
  index : Nat := 0
  parts : List Part := []

namespace Missed

def add (missed : Missed) (index : Nat) (part : Part) : Missed :=
  if missed.index < index then ⟨index, [part]⟩
  else if missed.index = index then ⟨index, part :: missed.parts⟩
  else missed

def listed : List String → String
  | [] => ""
  | [name] => name
  | [first, second] => first ++ " or " ++ second
  | names => String.intercalate ", " names.dropLast ++ ", or " ++ names.getLast?.getD ""

/-- What was missed, in words. Each part is named once. -/
def reason (missed : Missed) : String :=
  "expected " ++ listed ((Part.all.filter missed.parts.contains).map Part.name)

def lineColumn (line column : Nat) : List Char → Nat × Nat
  | [] => (line, column)
  | '\n' :: rest => lineColumn (line + 1) 1 rest
  | '\r' :: '\n' :: rest => lineColumn (line + 1) 1 rest
  | _ :: rest => lineColumn line (column + 1) rest

/-- The line of a place, between the characters before the place, backwards, and those from there
on. Its end is shown if the place is the end. -/
def lineAt (before behind : List Char) : List Char :=
  let start := (before.takeWhile (· ≠ '\n')).reverse
  let rest := behind.takeWhile (· ≠ '\n') ++ (behind.dropWhile (· ≠ '\n')).take 1
  match behind.head? with
  | some '\n' | some '\r' =>
    (start ++ rest).map fun character =>
      if character = '\n' then '␊' else if character = '\r' then '␍' else character
  | _ => (start ++ rest).filter fun character => ¬ (character = '\n' ∨ character = '\r')

/-- The line of the furthest place, with a mark below the place, and what was missed there. -/
def drawing (missed : Missed) (text : List Char) : String :=
  let before := text.take missed.index
  let (line, column) := lineColumn 1 1 before
  let shown := lineAt before.reverse (text.drop missed.index)
  let indent := (shown.take (column - 1)).map fun character =>
    if character = '\t' then '\t' else ' '
  let number := toString line
  let margin := String.ofList (List.replicate number.length ' ')
  String.intercalate "\n" [
    margin ++ "--> " ++ number ++ ":" ++ toString column,
    margin ++ " |",
    number ++ " | " ++ String.ofList shown,
    margin ++ " | " ++ String.ofList indent ++ "^---",
    margin ++ " |",
    margin ++ " = " ++ missed.reason]

example : listed ["a", "b", "c"] = "a, b, or c" := by decide +kernel
example : lineAt ['b', 'a', '\n'] ['c', '\n', 'd'] = ['a', 'b', 'c'] := by decide +kernel
example : lineAt ['a'] ['\n', 'd'] = ['a', '␊'] := by decide +kernel

end Missed

end ChartDialogue.Markup.Json5
