import ChartDialogue.Markup.Ron.Place
import ChartDialogue.Markup.Value

/-! # Nodes of RON texts

What a text says before it is taken for a value. Tables are ordered by their keys, which may be
nodes of any kind; only those with texts for keys are values.
-/

namespace ChartDialogue.Markup.Ron

inductive Node where
  | boolean (value : Bool)
  | character (character : Char)
  | table (entries : List (Node × Node))
  | integer (value : Int)
  | float (value : FloatValue)
  | absent
  | present (content : Node)
  | text (text : String)
  | list (elements : List Node)
  | unit

namespace Node

/-! ## Order -/

def rank : Node → Nat
  | .boolean _ => 0
  | .character _ => 1
  | .table _ => 2
  | .integer _ => 3
  | .float _ => 4
  | .absent => 5
  | .present _ => 6
  | .text _ => 7
  | .list _ => 8
  | .unit => 9

def compareCharacters : List Char → List Char → Ordering
  | [], [] => .eq
  | [], _ :: _ => .lt
  | _ :: _, [] => .gt
  | first :: left, second :: right =>
    (Ord.compare first.toNat second.toNat).then (compareCharacters left right)

mutual
def compare : Node → Node → Ordering
  | .boolean left, .boolean right => Ord.compare left.toNat right.toNat
  | .character left, .character right => Ord.compare left.toNat right.toNat
  | .table left, .table right => compareEntries left right
  | .integer left, .integer right => Ord.compare left right
  | .float left, .float right => Ord.compare left.position right.position
  | .present left, .present right => compare left right
  | .text left, .text right => compareCharacters left.toList right.toList
  | .list left, .list right => compareElements left right
  | left, right => Ord.compare left.rank right.rank

def compareElements : List Node → List Node → Ordering
  | [], [] => .eq
  | [], _ :: _ => .lt
  | _ :: _, [] => .gt
  | first :: left, second :: right => (compare first second).then (compareElements left right)

def compareEntries : List (Node × Node) → List (Node × Node) → Ordering
  | [], [] => .eq
  | [], _ :: _ => .lt
  | _ :: _, [] => .gt
  | (key, value) :: left, (otherKey, otherValue) :: right =>
    ((compare key otherKey).then (compare value otherValue)).then (compareEntries left right)
end

def putEntry (key value : Node) : List (Node × Node) → List (Node × Node)
  | [] => [(key, value)]
  | (other, old) :: rest =>
    match compare key other with
    | .lt => (key, value) :: (other, old) :: rest
    | .eq => (other, value) :: rest
    | .gt => (other, old) :: putEntry key value rest

/-- The table of some entries, of which the last one with a key counts. -/
def ofEntries (entries : List (Node × Node)) : Node :=
  .table (entries.foldl (fun table (key, value) => putEntry key value table) [])

/-! ## Values -/

def keyText? : Node → Option String
  | .text written => some written
  | .character letter => some (String.singleton letter)
  | _ => none

def description : Node → String
  | .boolean value => "the boolean \x60" ++ toString value ++ "\x60"
  | .character letter => "the UTF-8 character \x60" ++ String.singleton letter ++ "\x60"
  | .table _ => "a map"
  | .integer value => "the signed integer \x60" ++ toString value ++ "\x60"
  | .float value => "the floating point number \x60" ++ value.text ++ "\x60"
  | .absent | .present _ => "an optional value"
  | .text written => "the string " ++ Text.quoted written
  | .list _ => "a sequence"
  | .unit => "a unit value"

mutual
def toValue : Node → Except Fault Value
  | .boolean value => .ok (.boolean value)
  | .character letter => .ok (.text (String.singleton letter))
  | .table entries => do return .ofEntries (← toEntries entries)
  | .integer value => .ok (.integer value)
  | .float value => .ok (.float value)
  | .absent | .unit => .ok .null
  | .present content => content.toValue
  | .text written => .ok (.text written)
  | .list elements => do return .list (← toElements elements)

def toElements : List Node → Except Fault (List Value)
  | [] => .ok []
  | node :: rest => do
    let value ← node.toValue
    return value :: (← toElements rest)

def toEntries : List (Node × Node) → Except Fault (List (String × Value))
  | [] => .ok []
  | (key, node) :: rest => do
    match key.keyText? with
    | none => .error (.noKey key.description)
    | some name =>
      let value ← node.toValue
      return (name, value) :: (← toEntries rest)
end

end Node

end ChartDialogue.Markup.Ron
