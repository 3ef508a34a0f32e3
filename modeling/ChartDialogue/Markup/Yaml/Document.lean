import ChartDialogue.Markup.Yaml.Layout
import ChartDialogue.Markup.Yaml.Node

/-! # Reading YAML

The node of a document is read from the tokens of its text. A part of it may have a name, under
which it can stand in other places as well. What is wrong with the text goes before a key that is
given twice, and both before what is wrong with the value.
-/

namespace ChartDialogue.Markup.Yaml

structure Reader where
  ahead : List PlacedToken
  /-- The named nodes, the latest one first. One that is still being read is a bad one. -/
  anchors : List (String × Node) := []
  handles : List (String × String) := []
  /-- Where the latest node was complete. -/
  latest : Place := { rest := [] }
  repeated : Option Fault := none

namespace Reader

def token (reader : Reader) : Token := (reader.ahead.head?.map (·.token)).getD .textEnd

def place (reader : Reader) : Place := (reader.ahead.head?.map (·.place)).getD { rest := [] }

def next (reader : Reader) : Reader := { reader with ahead := reader.ahead.tail }

def complete (reader : Reader) : Reader := { reader.next with latest := reader.place }

/-- A fault at a place, or at the next token. What is wrong with the text itself goes first. -/
def failAt {α : Type} (reader : Reader) (place : Place) (reason : String) : Except Fault α :=
  match reader.token with
  | .broken fault => .error fault
  | _ => Yaml.fail place reason

def fail {α : Type} (reader : Reader) (reason : String) : Except Fault α :=
  reader.failAt reader.place reason

end Reader

abbrev NodeReading : Type := Except Fault (Node × Reader)

def nothing (reader : Reader) : NodeReading := .ok (.null, { reader with latest := reader.place })

/-! ## Properties -/

structure Properties where
  anchor : Option String := none
  tag : Option (String × String) := none

def Properties.isEmpty (properties : Properties) : Bool :=
  properties.anchor.isNone && properties.tag.isNone

def commonKinds : String := "tag:yaml.org,2002:"

def Reader.resolveTag (reader : Reader) (start : Place) (handle kind : String) :
    Except Fault (String × String) :=
  match reader.handles.lookup handle with
  | some meaning => .ok (meaning, kind)
  | none =>
    if handle = "!!" then .ok (commonKinds, kind)
    else if 2 ≤ handle.length then reader.failAt start "the handle wasn't declared"
    else .ok (handle, kind)

def properties (start : Place) : (steps : Nat) → Properties → Reader →
    Except Fault (Properties × Reader)
  | 0, read, reader => .ok (read, reader)
  | steps + 1, read, reader =>
    match reader.token, read.anchor, read.tag with
    | .anchor name, none, _ => properties start steps { read with anchor := some name } reader.next
    | .tag handle kind, _, none => do
      let tag ← reader.resolveTag start handle kind
      properties start steps { read with tag := some tag } reader.next
    | _, _, _ => .ok (read, reader)

def scalarNode (tag : Option (String × String)) (plain : Bool) (written : String) : Node :=
  if ! plain then .text written
  else match tag with
    | none => .ofPlain written
    | some (meaning, kind) =>
      if meaning = commonKinds then .ofTagged kind written else .text written

/-! ## Collections

Items are read by a reader for single nodes, which is told whether the node may be a block, and
whether it may be a list that is not indented.
-/

abbrev NodeReader : Type := (block unindented : Bool) → Reader → NodeReading

def nodeUnless (isMissing : Token → Bool) (node : Reader → NodeReading) (reader : Reader) :
    NodeReading :=
  if isMissing reader.token then nothing reader else node reader

def endsBlockItem : Token → Bool
  | .key | .value | .closeBlock => true
  | _ => false

def endsListItem : Token → Bool
  | .dash | .closeBlock => true
  | _ => false

def endsUnindentedItem (token : Token) : Bool := endsBlockItem token || endsListItem token

def endsFlowValue : Token → Bool
  | .comma | .closeFlow .table => true
  | _ => false

def endsFlowKey : Token → Bool
  | .value => true
  | token => endsFlowValue token

def endsPairValue : Token → Bool
  | .comma | .closeFlow .list => true
  | _ => false

def endsPairKey : Token → Bool
  | .value => true
  | token => endsPairValue token

def blockList (node : NodeReader) : (steps : Nat) → (read : List Node) → Reader → NodeReading
  | 0, _, reader => reader.fail "while parsing a block collection, did not end"
  | steps + 1, read, reader =>
    match reader.token with
    | .dash => do
      let (item, reader) ← nodeUnless endsListItem (node true false) reader.next
      blockList node steps (item :: read) reader
    | .closeBlock => .ok (.list read.reverse, reader.complete)
    | _ => reader.fail "while parsing a block collection, did not find expected '-' indicator"

/-- The rest of a list that stands at the column of its key. -/
def unindentedList (node : NodeReader) : (steps : Nat) → (read : List Node) → Reader → NodeReading
  | 0, read, reader => .ok (.list read.reverse, reader)
  | steps + 1, read, reader =>
    match reader.token with
    | .dash => do
      let (item, reader) ← nodeUnless endsUnindentedItem (node true false) reader.next
      unindentedList node steps (item :: read) reader
    | _ => .ok (.list read.reverse, { reader with latest := reader.place })

def addNode (draft : TableDraft) (node : Node) (reader : Reader) : TableDraft × Reader :=
  if draft.repeats then
    let place := reader.latest
    let fault := Fault.malformed (draft.key.description ++ ": duplicated key in mapping")
      place.index place.line place.column
    (draft.put node, { reader with repeated := reader.repeated.or (some fault) })
  else (draft.put node, reader)

def addEntry (key value : Reader → NodeReading) (draft : TableDraft) (reader : Reader) :
    Except Fault (TableDraft × Reader) := do
  let (key, reader) ← key reader
  let (draft, reader) := addNode draft key reader
  let (value, reader) ← value reader
  return addNode draft value reader

def blockValue (node : NodeReader) (reader : Reader) : NodeReading :=
  match reader.token with
  | .value => nodeUnless endsBlockItem (node true true) reader.next
  | _ => nothing reader

def blockTable (node : NodeReader) : (steps : Nat) → TableDraft → Reader → NodeReading
  | 0, _, reader => reader.fail "while parsing a block mapping, did not end"
  | steps + 1, draft, reader =>
    match reader.token with
    | .closeBlock => .ok (draft.node, reader.complete)
    | .key => do
      let (draft, reader) ← addEntry (nodeUnless endsBlockItem (node true true)) (blockValue node)
        draft reader.next
      blockTable node steps draft reader
    | .value => do
      let (draft, reader) ← addEntry nothing (blockValue node) draft reader
      blockTable node steps draft reader
    | _ => reader.fail "while parsing a block mapping, did not find expected key"

/-- What stands behind a key in braces. Nothing behind the mark is noticed at the mark. -/
def flowValue (node : NodeReader) (reader : Reader) : NodeReading :=
  match reader.token with
  | .value =>
    if endsFlowValue reader.next.token then .ok (.null, reader.complete)
    else node false false reader.next
  | _ => nothing reader

def flowTable (node : NodeReader) : (steps : Nat) → (first : Bool) → TableDraft → Reader →
    NodeReading
  | 0, _, _, reader => reader.fail "while parsing a flow mapping, did not end"
  | steps + 1, first, draft, reader =>
    let entry (reader : Reader) : NodeReading := do
      let (draft, reader) ← match reader.token with
        | .key =>
          addEntry (nodeUnless endsFlowKey (node false false)) (flowValue node) draft reader.next
        | .value => addEntry nothing (flowValue node) draft reader
        | _ => addEntry (node false false) nothing draft reader
      flowTable node steps false draft reader
    match first, reader.token with
    | _, .closeFlow .table => .ok (draft.node, reader.complete)
    | true, _ => entry reader
    | false, .comma =>
      match reader.next.token with
      | .closeFlow .table => .ok (draft.node, reader.complete.next)
      | _ => entry reader.next
    | false, _ => reader.fail "while parsing a flow mapping, did not find expected ',' or '\x7d'"

/-- What stands behind the mark of a key in brackets. The token that shows that there is no key
belongs to it. -/
def pairKey (node : NodeReader) (reader : Reader) : NodeReading :=
  if endsPairKey reader.token then .ok (.null, reader.complete) else node false false reader

def pairValue (node : NodeReader) (reader : Reader) : NodeReading :=
  match reader.token with
  | .value => nodeUnless endsPairValue (node false false) reader.next
  | _ => nothing reader

/-- The rest of a list in brackets; items but the first stand behind a comma. An item may be a
single pair. -/
def flowList (node : NodeReader) : (steps : Nat) → (first : Bool) → (read : List Node) → Reader →
    NodeReading
  | 0, _, _, reader => reader.fail "while parsing a flow sequence, did not end"
  | steps + 1, first, read, reader =>
    let item (reader : Reader) : NodeReading :=
      match reader.token with
      | .closeFlow .list => .ok (.list read.reverse, reader.complete)
      | .key => do
        let (draft, reader) ← addEntry (pairKey node) (pairValue node) {} reader.next
        flowList node steps false (draft.node :: read) reader
      | _ => do
        let (item, reader) ← node false false reader
        flowList node steps false (item :: read) reader
    match first, reader.token with
    | _, .closeFlow .list => .ok (.list read.reverse, reader.complete)
    | true, _ => item reader
    | false, .comma => item reader.next
    | false, _ => reader.fail "while parsing a flow sequence, expected ',' or ']'"

/-! ## Nodes -/

def nodeWith (inner : NodeReader) (properties : Properties) (block unindented : Bool)
    (reader : Reader) : NodeReading :=
  let steps := reader.ahead.length
  match reader.token, block, unindented with
  | .dash, _, true => unindentedList inner steps [] reader
  | .scalar plain written, _, _ => .ok (scalarNode properties.tag plain written, reader.complete)
  | .openFlow .list, _, _ => flowList inner steps true [] reader.next
  | .openFlow .table, _, _ => flowTable inner steps true {} reader.next
  | .openBlock .list, true, _ => blockList inner steps [] reader.next
  | .openBlock .table, true, _ => blockTable inner steps {} reader.next
  | _, _, _ =>
    if properties.isEmpty then
      reader.fail "while parsing a node, did not find expected node content"
    else .ok (scalarNode properties.tag true "", { reader with latest := reader.place })

def node : (depth : Nat) → NodeReader
  | 0, _, _, reader => reader.fail "recursion limit exceeded"
  | depth + 1, block, unindented, reader =>
    match reader.token with
    | .reference name =>
      match reader.anchors.lookup name with
      | some found => .ok (found, reader.complete)
      | none => reader.fail "while parsing node, found unknown anchor"
    | _ => do
      let (properties, reader) ← properties reader.place 2 {} reader
      let number := reader.anchors.length
      let named := properties.anchor.toList.map fun name => (name, Node.bad)
      let (found, reader) ← nodeWith (node depth) properties block unindented
        { reader with anchors := named ++ reader.anchors }
      match properties.anchor with
      | none => return (found, reader)
      | some name =>
        let later := reader.anchors.length - (number + 1)
        return (found, { reader with anchors := reader.anchors.set later (name, found) })

/-! ## Documents -/

def directives : (steps : Nat) → (versioned : Bool) → Reader → Except Fault Reader
  | 0, _, reader => .ok reader
  | steps + 1, versioned, reader =>
    match reader.token with
    | .directive .version =>
      if versioned then reader.fail "duplicate version directive"
      else directives steps true { reader.next with handles := [] }
    | .directive (.handle handle meaning) =>
      directives steps versioned { reader.next with handles := [(handle, meaning)] }
    | _ => .ok reader

def endsDocument : Token → Bool
  | .directive _ | .documentStart | .documentEnd | .textEnd => true
  | _ => false

def markedDocument (reader : Reader) : NodeReading := do
  let reader ← directives reader.ahead.length false reader
  match reader.token with
  | .documentStart => nodeUnless endsDocument (node reader.ahead.length true false) reader.next
  | _ => reader.fail "did not find expected <document start>"

/-- The nodes of the documents ahead. A document needs a mark in front unless the one before it has
a mark behind it. -/
def documents : (steps : Nat) → (mayBeUnmarked : Bool) → (read : List Node) → Reader →
    Except Fault (List Node × Reader)
  | 0, _, read, reader => .ok (read.reverse, reader)
  | steps + 1, mayBeUnmarked, read, reader =>
    match reader.token with
    | .documentEnd => documents steps mayBeUnmarked read reader.next
    | .textEnd => .ok (read.reverse, reader)
    | token => do
      let isMarked := endsDocument token || ! mayBeUnmarked
      let (found, reader) ←
        if isMarked then markedDocument reader else node reader.ahead.length true false reader
      let reader := { reader with anchors := [], handles := [] }
      match reader.token with
      | .documentEnd => documents steps true (found :: read) reader.next
      | .directive _ => reader.fail "missing explicit document end marker before directive"
      | _ => documents steps false (found :: read) reader

/-- The value of a text with one document. One without any is an empty table. -/
def parse (text : String) : Except Fault Value := do
  let ahead := tokens text
  let (found, reader) ← documents (ahead.length + 1) true [] { ahead }
  match reader.repeated, found with
  | some fault, _ => throw fault
  | none, [] => return .table []
  | none, [document] => document.toValue
  | none, several => throw (.documents several.length)

end ChartDialogue.Markup.Yaml
