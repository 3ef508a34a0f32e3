import ChartDialogue.Markup.Value
import ChartDialogue.Markup.Yaml.Place
import ChartDialogue.Number.Word
import ChartDialogue.Text.Quoted

/-! # Nodes of YAML texts

What a document says before it is taken for a value. A key of a table may be a node of any kind, and
stands in a table once; keys that are no texts and no integers do not count in values.
-/

namespace ChartDialogue.Markup.Yaml

inductive Node where
  | null
  /-- What is not what its tag says, or not complete yet. -/
  | bad
  | boolean (value : Bool)
  | integer (value : Int)
  | real (text : String)
  | text (text : String)
  | list (elements : List Node)
  | table (entries : List (Node × Node))

namespace Node

def isBad : Node → Bool
  | .bad => true
  | _ => false

/-! ## Scalars -/

def integer? (text : String) : Option Int :=
  let based := match text.toList with
    | '0' :: 'x' :: digits => Word.ofSigned? 16 digits
    | '0' :: 'o' :: digits => Word.ofSigned? 8 digits
    | '+' :: digits => Word.ofSigned? 10 digits
    | _ => none
  based.orElse fun _ => Word.ofSigned? 10 text.toList

example : integer? "0o17" = some 15 ∧ integer? "+7" = some 7 ∧ integer? "0x" = none := by
  decide +kernel

/-- Spellings of infinity and of what is no number. They are numbers without a value. -/
def valueless : List String :=
  [".inf", ".Inf", ".INF", "+.inf", "+.Inf", "+.INF", "-.inf", "-.Inf", "-.INF", ".nan", ".NAN"]

def isReal (text : String) : Bool := valueless.contains text || (FloatValue.ofText? text).isSome

def ofPlain (written : String) : Node :=
  match integer? written, written with
  | some value, _ => .integer value
  | none, "~" | none, "null" => .null
  | none, "true" => .boolean true
  | none, "false" => .boolean false
  | none, _ => if isReal written then .real written else .text written

def ofTagged (kind written : String) : Node :=
  match kind, written with
  | "bool", "true" => .boolean true
  | "bool", "false" => .boolean false
  | "bool", _ => .bad
  | "int", _ => ((Word.ofSigned? 10 written.toList).map integer).getD .bad
  | "float", _ => if isReal written then .real written else .bad
  | "null", "~" | "null", "null" => .null
  | "null", _ => .bad
  | _, _ => .text written

/-! ## Equality -/

mutual
/-- Whether two nodes are written alike. Tables have the same entries in the same order. -/
def same : Node → Node → Bool
  | .null, .null | .bad, .bad => true
  | .boolean left, .boolean right => left == right
  | .integer left, .integer right => left == right
  | .real left, .real right => left == right
  | .text left, .text right => left == right
  | .list left, .list right => sameElements left right
  | .table left, .table right => sameEntries left right
  | _, _ => false

def sameElements : List Node → List Node → Bool
  | [], [] => true
  | first :: left, second :: right => same first second && sameElements left right
  | _, _ => false

def sameEntries : List (Node × Node) → List (Node × Node) → Bool
  | [], [] => true
  | (key, value) :: left, (otherKey, otherValue) :: right =>
    same key otherKey && same value otherValue && sameEntries left right
  | _, _ => false
end

/-! ## Descriptions -/

mutual
def description : Node → String
  | .null => "Null"
  | .bad => "BadValue"
  | .boolean value => "Boolean(" ++ toString value ++ ")"
  | .integer value => "Integer(" ++ toString value ++ ")"
  | .real written => "Real(" ++ Text.quoted written ++ ")"
  | .text written => "String(" ++ Text.quoted written ++ ")"
  | .list elements => "Array([" ++ String.intercalate ", " (elementNames elements) ++ "])"
  | .table entries => "Hash(\x7b" ++ String.intercalate ", " (entryNames entries) ++ "\x7d)"

def elementNames : List Node → List String
  | [] => []
  | node :: rest => description node :: elementNames rest

def entryNames : List (Node × Node) → List String
  | [] => []
  | (key, value) :: rest => (description key ++ ": " ++ description value) :: entryNames rest
end

/-! ## Values -/

def keyText? : Node → Option String
  | .text written => some written
  | .integer value => some (toString value)
  | _ => none

mutual
def toValue : Node → Except Fault Value
  | .null | .bad => .ok .null
  | .boolean value => .ok (.boolean value)
  | .integer value => .ok (.integer value)
  | .real written =>
    match FloatValue.ofText? written with
    | some value => .ok (.float value)
    | none => .error (.noNumber written)
  | .text written => .ok (.text written)
  | .list elements => do return .list (← toElements elements)
  | .table entries => do return .ofEntries (← toEntries entries)

def toElements : List Node → Except Fault (List Value)
  | [] => .ok []
  | node :: rest => do
    let value ← node.toValue
    return value :: (← toElements rest)

def toEntries : List (Node × Node) → Except Fault (List (String × Value))
  | [] => .ok []
  | (key, node) :: rest => do
    match key.keyText? with
    | none => toEntries rest
    | some name =>
      let value ← node.toValue
      return (name, value) :: (← toEntries rest)
end

end Node

/-! ## Tables -/

structure TableDraft where
  /-- The key that waits for its value. A bad one is none. -/
  key : Node := .bad
  entries : List (Node × Node) := []

namespace TableDraft

/-- The table with one more node, which is the value of the key that waits, or such a key itself. -/
def put (draft : TableDraft) (node : Node) : TableDraft :=
  if draft.key.isBad then { draft with key := node }
  else { entries := (draft.key, node) :: draft.entries }

def repeats (draft : TableDraft) : Bool :=
  ! draft.key.isBad && draft.entries.any fun (key, _) => key.same draft.key

def node (draft : TableDraft) : Node := .table draft.entries.reverse

end TableDraft

end ChartDialogue.Markup.Yaml
