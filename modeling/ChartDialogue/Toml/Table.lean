import ChartDialogue.Toml.Value

/-! # Tables under construction

Every table of a document knows how it came to be, since that decides whether more may be put into
it: a table is defined once, by its header or by dotted keys, and a value never grows.
-/

namespace ChartDialogue.Toml

inductive TableOrigin where
  /-- It only stands above a table that has a header. -/
  | implied
  /-- It stands above the last part of a dotted key. -/
  | dotted
  | defined
deriving DecidableEq

mutual
inductive Node where
  | value (value : Value)
  | table (origin : TableOrigin) (entries : Entries)
  | tables (earlier : List Entries) (latest : Entries)

inductive Entries where
  | nil
  | cons (key : String) (node : Node) (rest : Entries)
end

namespace Entries

def find? (key : String) : Entries → Option Node
  | nil => none
  | cons other node rest => if key = other then some node else rest.find? key

def set (key : String) (node : Node) : Entries → Entries
  | nil => cons key node nil
  | cons other old rest =>
    if key = other then cons key node rest else cons other old (rest.set key node)

def erase (key : String) : Entries → Entries
  | nil => nil
  | cons other node rest => if key = other then rest else cons other node (rest.erase key)

/-- Change the entries of a table further down. The tables on the way are made where there are
none; dotted keys may not lead through a table that has a header. -/
def change (byDots : Bool) (edit : TableOrigin → Entries → Option Entries) :
    (path : List String) → TableOrigin → Entries → Option Entries
  | [], origin, entries => edit origin entries
  | key :: path, _, entries =>
    match entries.find? key with
    | none => do
      let origin := if byDots then .dotted else .implied
      let inner ← change byDots edit path origin nil
      return entries.set key (.table origin inner)
    | some (.value _) => none
    | some (.tables earlier latest) => do
      let inner ← change byDots edit path .defined latest
      return entries.set key (.tables earlier inner)
    | some (.table origin inner) =>
      if byDots ∧ origin = .defined then none
      else do
        let inner ← change byDots edit path origin inner
        return entries.set key (.table origin inner)

def assign (keys : List String) (last : String) (value : Value) :
    TableOrigin → Entries → Option Entries :=
  change true (fun origin entries =>
    if (origin = .dotted) = keys.isEmpty then none
    else if (entries.find? last).isSome then none
    else some (entries.set last (.value value))) keys

/-- A table with a header, as the last entry. Only a table that merely stood above others may be
there already, and it leaves its place. -/
def define (path : List String) (last : String) (root : Entries) : Option Entries :=
  change false (fun _ entries =>
    match entries.find? last with
    | none => some (entries.set last (.table .defined nil))
    | some (.table .implied inner) => some ((entries.erase last).set last (.table .defined inner))
    | some _ => none) path .defined root

def addTable (path : List String) (last : String) (root : Entries) : Option Entries :=
  change false (fun _ entries =>
    match entries.find? last with
    | none => some (entries.set last (.tables [] nil))
    | some (.tables earlier latest) =>
      some (entries.set last (.tables (earlier ++ [latest]) nil))
    | some _ => none) path .defined root

def assignBelow (header keys : List String) (last : String) (value : Value) (root : Entries) :
    Option Entries :=
  change false (assign keys last value) header .defined root

end Entries

mutual
def Node.finish : Node → Value
  | .value value => value
  | .table _ entries => .table entries.finish
  | .tables earlier latest => .array (finishAll earlier ++ [.table latest.finish])

def Entries.finish : Entries → List (String × Value)
  | .nil => []
  | .cons key node rest => (key, node.finish) :: rest.finish

def finishAll : List Entries → List Value
  | [] => []
  | entries :: rest => .table entries.finish :: finishAll rest
end

end ChartDialogue.Toml
