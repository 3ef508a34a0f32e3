import ChartDialogue.Toml.Text

/-! # Writing strings in TOML

A string is written between quotes if it needs no escapes there, else between apostrophes, else
between three quotes or three apostrophes; escapes are the last resort.
-/

namespace ChartDialogue.Toml

def longestRun (mark : Char) (characters : List Char) : Nat :=
  (characters.foldl (fun (longest, current) character =>
    if character = mark then (max longest (current + 1), current + 1) else (longest, 0))
    (0, 0)).1

def needsCode (character : Char) : Bool := ¬ isPlain character && character != '\n'

def hexDigits (number : Nat) : List Char := (Nat.toDigits 16 number).map Char.toUpper

def escaped (character : Char) : List Char :=
  match character with
  | '\x08' => ['\\', 'b']
  | '\t' => ['\\', 't']
  | '\n' => ['\\', 'n']
  | '\x0c' => ['\\', 'f']
  | '\r' => ['\\', 'r']
  | '"' => ['\\', '"']
  | '\\' => ['\\', '\\']
  | other =>
    let digits := hexDigits other.toNat
    '\\' :: 'u' :: List.replicate (4 - digits.length) '0' ++ digits

/-- Characters between one or three quotes. Up to `quotes` quotes in a row stay as they are, and so
do line feeds where lines may be broken; `run` counts the quotes just before. -/
def escapeAll (quotes : Nat) (lines : Bool) (run : Nat) : List Char → List Char
  | [] => []
  | character :: rest =>
    if character = '"' then
      if run < quotes then '"' :: escapeAll quotes lines (run + 1) rest
      else escaped '"' ++ escapeAll quotes lines 0 rest
    else if (character = '\n' ∧ lines)
        ∨ (isPlain character ∧ character ≠ '\t' ∧ character ≠ '\\') then
      character :: escapeAll quotes lines 0 rest
    else escaped character ++ escapeAll quotes lines 0 rest

def renderString (text : String) : String :=
  let characters := text.toList
  let hasCodes := characters.any needsCode
  let hasBackslash := characters.contains '\\'
  let hasLines := characters.contains '\n'
  let quotes := longestRun '"' characters
  let apostrophes := longestRun '\'' characters
  let first := if hasLines then ['\n'] else []
  let three (mark : Char) := List.replicate 3 mark
  let long (body : List Char) := three '"' ++ first ++ body ++ three '"'
  String.ofList <|
    if ¬ hasCodes ∧ ¬ hasBackslash ∧ quotes = 0 ∧ ¬ hasLines then
      '"' :: escapeAll 0 false 0 characters ++ ['"']
    else if ¬ hasCodes ∧ apostrophes = 0 ∧ ¬ hasLines then '\'' :: characters ++ ['\'']
    else if ¬ hasCodes ∧ ¬ hasBackslash ∧ quotes ≤ 2 then long (escapeAll 2 true 0 characters)
    else if ¬ hasCodes ∧ apostrophes ≤ 2 then three '\'' ++ first ++ characters ++ three '\''
    else if hasLines then long (escapeAll 2 true 0 characters)
    else '"' :: escapeAll 0 false 0 characters ++ ['"']

example : renderString "c d" = "\"c d\"" ∧ renderString "a\\b" = "'a\\b'" := by decide +kernel

end ChartDialogue.Toml
