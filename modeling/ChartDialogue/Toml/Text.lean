import ChartDialogue.Number.Digits
import ChartDialogue.Text.Code

/-! # Strings in TOML

Four kinds of strings: between quotes or apostrophes, and between one or three of them. Escapes are
known only between quotes; lines may be broken only between three.
-/

namespace ChartDialogue.Toml

/-- Whether a character may stand in a text as it is: a tab, or no control character. -/
def isPlain (character : Char) : Bool :=
  character == '\t' || (0x20 ≤ character.toNat && character.toNat ≠ 0x7F)

def hexEscape? (count : Nat) (characters : List Char) : Option (Char × List Char) := do
  let digits := characters.take count
  guard (digits.length = count)
  let character ← Text.ofCode? (← Digits.natural? 16 digits)
  return (character, characters.drop count)

def escape? : List Char → Option (Char × List Char)
  | 'b' :: rest => some ('\x08', rest)
  | 't' :: rest => some ('\t', rest)
  | 'n' :: rest => some ('\n', rest)
  | 'f' :: rest => some ('\x0c', rest)
  | 'r' :: rest => some ('\r', rest)
  | '"' :: rest => some ('"', rest)
  | '\\' :: rest => some ('\\', rest)
  | 'u' :: rest => hexEscape? 4 rest
  | 'U' :: rest => hexEscape? 8 rest
  | _ => none

/-- The text up to the closing quote, and what follows; `read` holds what was read, backwards. -/
def basic? : (steps : Nat) → (read : List Char) → List Char → Option (String × List Char)
  | 0, _, _ => none
  | _, _, [] => none
  | steps + 1, read, character :: rest =>
    if character = '"' then some (String.ofList read.reverse, rest)
    else if character = '\\' then do
      let (escaped, rest) ← escape? rest
      basic? steps (escaped :: read) rest
    else if isPlain character then basic? steps (character :: read) rest
    else none

def literal? (read : List Char) : List Char → Option (String × List Char)
  | [] => none
  | character :: rest =>
    if character = '\'' then some (String.ofList read.reverse, rest)
    else if isPlain character then literal? (character :: read) rest
    else none

/-! ## Several lines -/

def lineBreak? : List Char → Option (List Char)
  | '\n' :: rest => some rest
  | '\r' :: '\n' :: rest => some rest
  | _ => none

def dropLineBreak (characters : List Char) : List Char := (lineBreak? characters).getD characters

def dropBlankLines : List Char → List Char
  | ' ' :: rest | '\t' :: rest | '\n' :: rest => dropBlankLines rest
  | '\r' :: '\n' :: rest => dropBlankLines rest
  | characters => characters

/-- What follows a backslash at the end of a line: the line break and all blanks behind it go. -/
def continuation? (characters : List Char) : Option (List Char) :=
  (lineBreak? (characters.dropWhile fun character => character == ' ' || character == '\t')).map
    dropBlankLines

/-- The end of a text between three marks: up to two marks before the last three belong to the
text. -/
def closing? (mark : Char) (characters : List Char) : Option (List Char × List Char) :=
  let marks := (characters.takeWhile (· == mark)).length
  if marks < 3 then none
  else
    let kept := min (marks - 3) 2
    some (List.replicate kept mark, characters.drop (kept + 3))

def longBasic? : (steps : Nat) → (read : List Char) → List Char → Option (String × List Char)
  | 0, _, _ => none
  | steps + 1, read, characters =>
    match closing? '"' characters with
    | some (kept, rest) => some (String.ofList (read.reverse ++ kept), rest)
    | none =>
      match lineBreak? characters with
      | some rest => longBasic? steps ('\n' :: read) rest
      | none =>
        match characters with
        | [] => none
        | '\\' :: rest =>
          match continuation? rest with
          | some rest => longBasic? steps read rest
          | none => do
            let (escaped, rest) ← escape? rest
            longBasic? steps (escaped :: read) rest
        | character :: rest =>
          if isPlain character then longBasic? steps (character :: read) rest else none

def longLiteral? : (steps : Nat) → (read : List Char) → List Char → Option (String × List Char)
  | 0, _, _ => none
  | steps + 1, read, characters =>
    match closing? '\'' characters with
    | some (kept, rest) => some (String.ofList (read.reverse ++ kept), rest)
    | none =>
      match lineBreak? characters with
      | some rest => longLiteral? steps ('\n' :: read) rest
      | none =>
        match characters with
        | [] => none
        | character :: rest =>
          if isPlain character then longLiteral? steps (character :: read) rest else none

def string? (characters : List Char) : Option (String × List Char) :=
  let steps := characters.length + 1
  match characters with
  | '"' :: '"' :: '"' :: rest => longBasic? steps [] (dropLineBreak rest)
  | '\'' :: '\'' :: '\'' :: rest => longLiteral? steps [] (dropLineBreak rest)
  | '"' :: rest => basic? steps [] rest
  | '\'' :: rest => literal? [] rest
  | _ => none

end ChartDialogue.Toml
