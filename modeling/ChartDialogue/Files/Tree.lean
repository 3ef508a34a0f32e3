import ChartDialogue.Collection.StringMap
import ChartDialogue.Files.Access

/-! # Trees of files

A tree of files in memory, with the same faults as a disk. Every file and directory is kept under
the steps that lead to it from the current directory.
-/

namespace ChartDialogue

inductive FileEntry where
  | file (content : ByteArray)
  | directory

structure FileTree where
  home : String
  /-- Files and directories by their steps, joined by slashes. -/
  entries : StringMap FileEntry

namespace FileTree

def empty (home : String) : FileTree := ⟨home, StringMap.empty⟩

def key (place : List String) : String := String.intercalate "/" place

/-- What lies at a place. The current directory, those above it and the root of all are always
there. -/
def entry? (tree : FileTree) (place : List String) : Option FileEntry :=
  if place = ["/"] ∨ place.all (· = "..") then some .directory else tree.entries.find? (key place)

def put (tree : FileTree) (place : List String) (entry : FileEntry) : FileTree :=
  { tree with entries := tree.entries.insert (key place) entry }

/-! ## Finding places

Names are walked step by step, and every step has to start in a directory. Above the current
directory there are only directories. -/

def nameLimit : Nat := 4095

def stepLimit : Nat := 255

def above (place : List String) : List String :=
  if place = ["/"] then place
  else match place.getLast? with
    | none | some ".." => place ++ [".."]
    | some _ => place.dropLast

def step (tree : FileTree) (place : List String) (name : String) :
    Except FileFault (List String) :=
  match tree.entry? place with
  | none => .error .notFound
  | some (.file _) => .error .notDirectory
  | some .directory =>
    if name = "." then .ok place
    else if name = ".." then .ok (above place)
    else if stepLimit < name.utf8ByteSize then .error .nameTooLong
    else .ok (place ++ [name])

def follow (tree : FileTree) : (place : List String) → (steps : List String) →
    Except FileFault (List String)
  | place, [] => .ok place
  | place, name :: rest => do tree.follow (← tree.step place name) rest

def inside? (home name : List Char) : Option (List Char) :=
  if home.isPrefixOf name then
    match name.drop home.length with
    | [] => some []
    | '/' :: rest => some rest
    | _ => none
  else none

def route (tree : FileTree) (name : String) : Except FileFault (List String × List String) :=
  if name.toList.contains '\x00' then .error .nullInName
  else if name.isEmpty then .error .notFound
  else if nameLimit < name.utf8ByteSize then .error .nameTooLong
  else match inside? tree.home.toList name.toList with
    | some rest => .ok ([], FileName.walk (String.ofList rest))
    | none => .ok (if FileName.isAbsolute name then ["/"] else [], FileName.walk name)

def endsWithSlash (name : String) : Bool := name.toList.getLast? == some '/'

def locate (tree : FileTree) (name : String) : Except FileFault (List String) := do
  let (start, steps) ← tree.route name
  let place ← tree.follow start steps
  match tree.entry? place with
  | some (.file _) => if endsWithSlash name then .error .notDirectory else .ok place
  | _ => .ok place

/-- The place that a name is for, of something that may still have to be made: the directory it
lies in, and its last step. A name whose last step is no name of its own has none. -/
def site? (tree : FileTree) (name : String) :
    Except FileFault (Option (List String × String)) := do
  let (start, steps) ← tree.route name
  match steps.getLast? with
  | none => return none
  | some last =>
    let place ← tree.follow start steps.dropLast
    let _ ← tree.step place "."
    return if last = "." ∨ last = ".." then none else some (place, last)

/-! ## Reading and writing -/

def read (tree : FileTree) (name : String) : Except FileFault ByteArray := do
  match tree.entry? (← tree.locate name) with
  | none => .error .notFound
  | some .directory => .error .isDirectory
  | some (.file content) => .ok content

def isFile (tree : FileTree) (name : String) : Bool := (tree.read name).isOk

def isDirectory (tree : FileTree) (name : String) : Bool :=
  match tree.locate name with
  | .error _ => false
  | .ok place => match tree.entry? place with
    | some .directory => true
    | _ => false

def modify (tree : FileTree) (name : String) (change : ByteArray → ByteArray) :
    Except FileFault FileTree := do
  match ← tree.site? name with
  | none => .error .isDirectory
  | some (directory, last) =>
    if endsWithSlash name then .error .isDirectory
    else
      let place ← tree.step directory last
      match tree.entry? place with
      | some .directory => .error .isDirectory
      | some (.file content) => .ok (tree.put place (.file (change content)))
      | none => .ok (tree.put place (.file (change ByteArray.empty)))

def write (tree : FileTree) (name text : String) : Except FileFault FileTree :=
  tree.modify name fun _ => text.toUTF8

def append (tree : FileTree) (name text : String) : Except FileFault FileTree :=
  tree.modify name fun content => content ++ text.toUTF8

def makeDirectory (tree : FileTree) (name : String) : Except FileFault FileTree := do
  match ← tree.site? name with
  | none => .error .alreadyExists
  | some (directory, last) =>
    let place ← tree.step directory last
    match tree.entry? place with
    | some _ => .error .alreadyExists
    | none => .ok (tree.put place .directory)

def ensureDirectory (tree : FileTree) (name : String) : Except FileFault FileTree :=
  match tree.makeDirectory name with
  | .ok made => .ok made
  | .error fault => if tree.isDirectory name then .ok tree else .error fault

/-- Make a directory and those above it; at most `levels` are tried. -/
def ensureAbove (tree : FileTree) : (levels : Nat) → (name : String) → Except FileFault FileTree
  | 0, _ => .ok tree
  | levels + 1, name =>
    match tree.makeDirectory name with
    | .error .notFound =>
      match FileName.parent? name with
      | none => .error .notFound
      | some above => do (← tree.ensureAbove levels above).ensureDirectory name
    | _ => tree.ensureDirectory name

def makeDirectories (tree : FileTree) (name : String) : Except FileFault FileTree :=
  if name.isEmpty then .ok tree
  else tree.ensureAbove ((FileName.steps name).length + 1) name

def filesIn (tree : FileTree) (name : String) : List (String × ByteArray) :=
  match tree.locate name with
  | .error _ => []
  | .ok place =>
    let start := if place = [] then [] else (key place ++ "/").toList
    tree.entries.entries.filterMap fun (key, entry) =>
      match entry with
      | .directory => none
      | .file content =>
        if start.isPrefixOf key.toList then
          let inner := key.toList.drop start.length
          if inner.contains '/' then none else some (String.ofList inner, content)
        else none

/-- A change to the tree in a state, which is kept only if it succeeds. -/
def changing (change : FileTree → Except FileFault FileTree) :
    StateM FileTree (Except FileFault Unit) := fun tree =>
  match change tree with
  | .ok changed => (.ok (), changed)
  | .error fault => (.error fault, tree)

instance : FileAccess (StateM FileTree) where
  currentDirectory := fun tree => (tree.home, tree)
  isFile name := fun tree => (tree.isFile name, tree)
  isPresent name := fun tree => (tree.isFile name || tree.isDirectory name, tree)
  read name := fun tree => (tree.read name, tree)
  write name text := changing fun tree => tree.write name text
  append name text := changing fun tree => tree.append name text
  makeDirectories name := changing fun tree => tree.makeDirectories name

end FileTree

end ChartDialogue
