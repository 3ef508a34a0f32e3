/-! # Access to files

What the program asks of the files around it, and what can go wrong. The program is written over
any such access, so that it runs on a disk and can be studied on a tree of files in memory.
-/

namespace ChartDialogue

inductive FileFault where
  | notFound
  | alreadyExists
  | notDirectory
  | isDirectory
  | nameTooLong
  | nullInName
  | badText
  | other (reason : String)
deriving DecidableEq, Repr

def FileFault.message : FileFault → String
  | .notFound => "No such file or directory (os error 2)"
  | .alreadyExists => "File exists (os error 17)"
  | .notDirectory => "Not a directory (os error 20)"
  | .isDirectory => "Is a directory (os error 21)"
  | .nameTooLong => "File name too long (os error 36)"
  | .nullInName => "file name contained an unexpected NUL byte"
  | .badText => "stream did not contain valid UTF-8"
  | .other reason => reason

/-- Access to files by name. Names are relative to a current directory. -/
class FileAccess (m : Type → Type) where
  currentDirectory : m String
  isFile : (name : String) → m Bool
  /-- Whether there is a file or a directory of a name. -/
  isPresent : (name : String) → m Bool
  read : (name : String) → m (Except FileFault ByteArray)
  /-- Replace the content of a file, which is made if there is none. -/
  write : (name text : String) → m (Except FileFault Unit)
  append : (name text : String) → m (Except FileFault Unit)
  makeDirectories : (name : String) → m (Except FileFault Unit)

namespace FileAccess

variable {m : Type → Type} [Monad m] [FileAccess m]

def readText (name : String) : m (Except FileFault String) := do
  match ← read name with
  | .error fault => return .error fault
  | .ok bytes =>
    match String.fromUTF8? bytes with
    | some text => return .ok text
    | none => return .error .badText

end FileAccess

/-! ## Names of files -/

namespace FileName

def isAbsolute (name : String) : Bool := name.toList.head? == some '/'

def join (directory name : String) : String :=
  if isAbsolute name then name
  else if directory.isEmpty then name
  else if directory.toList.getLast? == some '/' then directory ++ name
  else directory ++ "/" ++ name

/-- Names between slashes; `pending` holds the characters of the unfinished one backwards. -/
def splitSlashes (pending : List Char) : List Char → List (List Char)
  | [] => [pending.reverse]
  | '/' :: rest => pending.reverse :: splitSlashes [] rest
  | character :: rest => splitSlashes (character :: pending) rest

/-- The steps of a walk from directory to directory. A dot is a step that stays where it is. -/
def walk (name : String) : List String :=
  ((splitSlashes [] name.toList).map String.ofList).filter fun step => step ≠ ""

def steps (name : String) : List String := (walk name).filter fun step => step ≠ "."

def parent? (name : String) : Option String :=
  match (steps name).dropLast with
  | [] => if isAbsolute name ∧ ¬ (steps name).isEmpty then some "/" else none
  | above =>
    let joined := String.intercalate "/" above
    some (if isAbsolute name then "/" ++ joined else joined)

/-- What follows the last dot of the last step, if something stands before that dot. -/
def extension? (name : String) : Option String :=
  match (steps name).getLast? with
  | none => none
  | some last =>
    let backwards := last.toList.reverse
    let ending := backwards.takeWhile (· ≠ '.')
    match backwards.drop ending.length with
    | '.' :: _ :: _ => some (String.ofList ending.reverse)
    | _ => none

/-- The characters of a name, backwards, without what follows its last step. -/
def dropEnd : (backwards : List Char) → List Char
  | '/' :: rest => dropEnd rest
  | '.' :: '/' :: rest => dropEnd rest
  | characters => characters

/-- A longer name: the last step with an ending added. A last step that leads upwards cannot have
one. -/
def extend? (name ending : String) : Option String :=
  match dropEnd name.toList.reverse with
  | [] | ['.', '.'] | '.' :: '.' :: '/' :: _ => none
  | backwards => some (String.ofList backwards.reverse ++ "." ++ ending)

example : parent? "out/deep/query.log" = some "out/deep" := by decide +kernel
example : extension? "config/vega.toml" = some "toml" := by decide +kernel
example : extension? ".toml" = none := by decide +kernel
example : extend? "/home/vega/." "toml" = some "/home/vega.toml" := by decide +kernel

end FileName

end ChartDialogue
