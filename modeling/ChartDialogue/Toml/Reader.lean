import ChartDialogue.Toml.Moment
import ChartDialogue.Toml.Table
import ChartDialogue.Toml.Text

/-! # Reading TOML

A document is read line by line: headers of tables, headers of arrays of tables, and entries.
-/

namespace ChartDialogue.Toml

def isBlank (character : Char) : Bool := character == ' ' || character == '\t'

def skipBlanks (characters : List Char) : List Char := characters.dropWhile isBlank

/-! ## Keys -/

def isKeyCharacter (character : Char) : Bool :=
  character.isAlphanum || character == '_' || character == '-'

def simpleKey? (characters : List Char) : Option (String × List Char) :=
  match characters with
  | '"' :: rest => basic? (characters.length + 1) [] rest
  | '\'' :: rest => literal? [] rest
  | _ =>
    match characters.takeWhile isKeyCharacter with
    | [] => none
    | key => some (String.ofList key, characters.dropWhile isKeyCharacter)

/-- How many parts a key may have, and how deep values may nest. -/
def depthLimit : Nat := 79

def keys? : (parts : Nat) → List Char → Option (List String × List Char)
  | 0, _ => none
  | parts + 1, characters => do
    let (key, rest) ← simpleKey? (skipBlanks characters)
    match skipBlanks rest with
    | '.' :: rest =>
      let (others, rest) ← keys? parts rest
      return (key :: others, rest)
    | rest => return ([key], rest)

def splitLast? : List String → Option (List String × String)
  | [] => none
  | first :: rest => some ((first :: rest).dropLast, rest.getLast?.getD first)

/-! ## Blanks and comments -/

def skipComment : List Char → Option (List Char)
  | '#' :: rest =>
    let behind := rest.dropWhile fun character => isPlain character
    match behind with
    | [] | '\n' :: _ | '\r' :: '\n' :: _ => some behind
    | _ => none
  | characters => some characters

def skipLines : (steps : Nat) → List Char → Option (List Char)
  | 0, _ => none
  | steps + 1, characters => do
    let behind ← skipComment (skipBlanks characters)
    match lineBreak? behind with
    | some rest => skipLines steps rest
    | none => return behind

def endLine? (characters : List Char) : Option (List Char) := do
  let behind ← skipComment (skipBlanks characters)
  match behind with
  | [] => return []
  | _ => lineBreak? behind

/-! ## Values -/

/-- The elements of an array from behind its bracket or a comma; `read` holds those before,
backwards. -/
def elements? (element : List Char → Option (Value × List Char)) :
    (steps : Nat) → (read : List Value) → List Char → Option (List Value × List Char)
  | 0, _, _ => none
  | steps + 1, read, characters => do
    match ← skipLines (characters.length + 1) characters with
    | ']' :: rest => return (read.reverse, rest)
    | behind =>
      let (value, rest) ← element behind
      match ← skipLines (rest.length + 1) rest with
      | ',' :: rest => elements? element steps (value :: read) rest
      | ']' :: rest => return ((value :: read).reverse, rest)
      | _ => none

def inlineEntries? (element : List Char → Option (Value × List Char)) :
    (steps : Nat) → Entries → List Char → Option (Entries × List Char)
  | 0, _, _ => none
  | steps + 1, entries, characters => do
    let (keys, rest) ← keys? depthLimit characters
    let (path, last) ← splitLast? keys
    match rest with
    | '=' :: rest =>
      let (value, rest) ← element (skipBlanks rest)
      let entries ← entries.assign path last value .defined
      match skipBlanks rest with
      | ',' :: rest => inlineEntries? element steps entries rest
      | '\x7d' :: rest => return (entries, rest)
      | _ => none
    | _ => none

def value? : (depth : Nat) → List Char → Option (Value × List Char)
  | depth, '[' :: rest =>
    match depth with
    | 0 => none
    | depth + 1 =>
      (elements? (value? depth) (rest.length + 1) [] rest).map fun (elements, rest) =>
        (.array elements, rest)
  | depth, '\x7b' :: rest =>
    match depth with
    | 0 => none
    | depth + 1 =>
      match skipBlanks rest with
      | '\x7d' :: rest => some (.table [], rest)
      | inner =>
        (inlineEntries? (value? depth) (inner.length + 1) .nil inner).map fun (entries, rest) =>
          (.table entries.finish, rest)
  | _, characters =>
    match characters with
    | '"' :: _ | '\'' :: _ =>
      (string? characters).map fun (text, rest) => (.string text, rest)
    | _ =>
      let (run, rest) := scalarRun characters
      (scalar? run).map fun value => (value, rest)

/-! ## Documents -/

structure Document where
  root : Entries
  header : List String

def header? (document : Document) (ofArray : Bool) (characters : List Char) :
    Option (Document × List Char) := do
  let (keys, rest) ← keys? depthLimit characters
  let (path, last) ← splitLast? keys
  let rest ← expect? ']' rest
  let rest ← if ofArray then expect? ']' rest else some rest
  let root ← if ofArray then document.root.addTable path last else document.root.define path last
  return (⟨root, keys⟩, ← endLine? rest)

def entry? (document : Document) (characters : List Char) : Option (Document × List Char) := do
  let (keys, rest) ← keys? depthLimit characters
  let (path, last) ← splitLast? keys
  let rest ← expect? '=' rest
  let (value, rest) ← value? depthLimit (skipBlanks rest)
  let root ← document.root.assignBelow document.header path last value
  return ({ document with root }, ← endLine? rest)

def readLines? : (steps : Nat) → Document → List Char → Option Document
  | 0, _, _ => none
  | steps + 1, document, characters => do
    match ← skipLines (characters.length + 1) characters with
    | [] => return document
    | '[' :: '[' :: rest =>
      let (document, rest) ← header? document true rest
      readLines? steps document rest
    | '[' :: rest =>
      let (document, rest) ← header? document false rest
      readLines? steps document rest
    | behind =>
      let (document, rest) ← entry? document behind
      readLines? steps document rest

def dropByteOrder : List Char → List Char
  | '\uFEFF' :: rest => rest
  | characters => characters

/-- The value of a document: its table, or the moment that a marked table stands for. -/
def parse? (text : String) : Option Value := do
  let characters := dropByteOrder text.toList
  let document ← readLines? (characters.length + 1) ⟨.nil, []⟩ characters
  Value.settle? (.table document.root.finish)

end ChartDialogue.Toml
