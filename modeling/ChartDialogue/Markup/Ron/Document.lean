import ChartDialogue.Markup.Ron.Scalar

/-! # Reading RON

Scalars, lists in brackets, tables in braces, and records and tuples in parentheses, with or without
a name before them. Comments may stand wherever blanks may, and attributes in front of the text.
-/

namespace ChartDialogue.Markup.Ron

structure Extensions where
  /-- Whether the mark of a value that may be missing needs no parentheses. -/
  implicitSome : Bool := false
  /-- Whether the parentheses behind such a mark are those of a record or a tuple. -/
  unwrapped : Bool := false

/-! ## Items -/

abbrev NodeReader : Type := Cursor → Except Fault (Node × Cursor)

def tooDeep : NodeReader := fun cursor => fail cursor .nesting

def items {α : Type} (closing : Char) (item : Cursor → Except Fault (α × Cursor)) :
    (steps : Nat) → (read : List α) → (separated : Bool) → Cursor →
    Except Fault (List α × Cursor)
  | 0, _, _, cursor => fail cursor .endOfText
  | steps + 1, read, separated, cursor => do
    let cursor ← skipBlanks cursor
    match cursor.rest with
    | [] => fail cursor .endOfText
    | character :: _ =>
      if character = closing then return (read.reverse, cursor)
      else if separated then
        let (found, behind) ← item cursor
        let (separated, behind) ← comma behind
        items closing item steps (found :: read) separated behind
      else fail cursor .expectedComma

def entry (key value : NodeReader) (cursor : Cursor) :
    Except Fault ((Node × Node) × Cursor) := do
  let (key, behind) ← key cursor
  let behind ← skipBlanks behind
  match behind? ":" behind with
  | none => fail behind .expectedColon
  | some behind =>
    let (value, behind) ← value (← skipBlanks behind)
    return ((key, value), behind)

def elements (closing : Char) (item : NodeReader) (cursor : Cursor) :
    Except Fault (Node × Cursor) := do
  let (found, behind) ← items closing item (cursor.rest.length + 1) [] true cursor
  return (.list found, behind)

def entries (closing : Char) (key value : NodeReader) (cursor : Cursor) :
    Except Fault (Node × Cursor) := do
  let (found, behind) ← items closing (entry key value) (cursor.rest.length + 1) [] true cursor
  return (.ofEntries found, behind)

def fieldName : NodeReader := fun cursor => do
  let (name, behind) ← name cursor
  return (.text name, behind)

/-! ## Nodes

How deep a text may nest is limited: a collection takes one level, and each of its items one more.
-/

/-- Whether the next item in parentheses has a name, as far as can be told. -/
def holdsFields (cursor : Cursor) : Except Reason Bool :=
  match name cursor with
  | .error _ => .ok false
  | .ok (_, behind) =>
    match pastBlanks (behind.rest.length + 1) behind with
    | (some reason, _) => .error reason
    | (none, behind) =>
      match behind.rest with
      | [] => .error .endOfText
      | character :: _ => .ok (character = ':')

def enclosed (levels : Nat) (inner : Cursor → Except Fault (Node × Cursor)) (cursor : Cursor) :
    Except Fault (Node × Cursor) := do
  if levels = 0 then fail cursor.next .nesting
  else
    let (node, behind) ← inner cursor.next
    return (node, behind.next)

def fieldsOrElements (levels : Nat) (item : NodeReader) (fields : Bool) : NodeReader :=
  if fields then entries ')' (if levels ≤ 1 then tooDeep else fieldName) item
  else elements ')' item

/-- A record or a tuple; a name alone holds nothing. What is wrong before it is known which of both
it is counts as noticed in front. -/
def group (levels : Nat) (item : NodeReader) (cursor : Cursor) : Except Fault (Node × Cursor) :=
  match behind? "(" cursor with
  | none => .ok (.unit, cursor)
  | some inner =>
    let fields : Except Reason Bool := match pastBlanks (inner.rest.length + 1) inner with
      | (some reason, _) => .error reason
      | (none, inner) => holdsFields inner
    match fields with
    | .error reason => fail cursor reason
    | .ok fields => enclosed levels (fieldsOrElements levels item fields) cursor

/-- What stands in the parentheses of a value that may be missing, if they are those of a record or
a tuple. -/
def unwrapped (levels : Nat) (item : NodeReader) (cursor : Cursor) :
    Except Fault (Node × Cursor) :=
  match holdsFields cursor with
  | .error reason => fail cursor reason
  | .ok fields =>
    if levels = 0 then fail cursor .nesting else fieldsOrElements levels item fields cursor

/-- A value that may be missing, from behind the word that says it is there. `content` reads what is
in parentheses, and `bare` what is not. -/
def present (extensions : Extensions) (content bare : NodeReader) (cursor : Cursor) :
    Except Fault (Node × Cursor) := do
  let cursor ← skipBlanks cursor
  match behind? "(" cursor with
  | some inner =>
    let (node, behind) ← content (← skipBlanks inner)
    let (_, behind) ← comma behind
    match behind? ")" behind with
    | some behind => return (.present node, behind)
    | none => fail behind .expectedOptionEnd
  | none =>
    if extensions.implicitSome then
      let (node, behind) ← bare cursor
      return (.present node, behind)
    else fail cursor .expectedOption

def booleanWords : List (String × Node) := [("true", .boolean true), ("false", .boolean false)]

def numberWords : List (String × Node) := [
  ("inf", .float (.infinite false)), ("-inf", .float (.infinite true)), ("NaN", .float .undefined)]

def unnamed (levels : Nat) (item : NodeReader) (cursor : Cursor) :
    Except Fault (Node × Cursor) := do
  let asText (reading : Except Fault (String × Cursor)) : Except Fault (Node × Cursor) := do
    let (text, behind) ← reading
    return (.text text, behind)
  match cursor.rest with
  | [] => fail cursor .endOfText
  | '(' :: _ => group levels item cursor
  | '[' :: _ => enclosed levels (elements ']' item) cursor
  | '\x7b' :: _ => enclosed levels (entries '\x7d' item item) cursor
  | '"' :: rest => asText (quotedText (rest.length + 1) [] .expectedStringEnd cursor.next)
  | 'r' :: _ => asText (rawText cursor.next)
  | '\'' :: _ => do
    let (character, behind) ← character cursor.next
    return (.character character, behind)
  | first :: _ =>
    if first.isDigit ∨ isSign first ∨ first = '.' then number cursor
    else fail cursor (.unexpected (firstByte first))

/-- A node with some levels left. `content` reads one with a level less, and `item` one with two. -/
def nodeWith (extensions : Extensions) (levels : Nat) (content : (inside : Bool) → NodeReader)
    (item : NodeReader) (cursor : Cursor) : Except Fault (Node × Cursor) := do
  match wordAmong? booleanWords cursor with
  | some found => return found
  | none =>
    match behindWord? "Some" cursor, behindWord? "None" cursor, behind? "()" cursor with
    | some behind, _, _ =>
      present extensions (content extensions.unwrapped) (content false) behind
    | _, some behind, _ => return (.absent, behind)
    | _, _, some behind => return (.unit, behind)
    | _, _, _ =>
      match wordAmong? numberWords cursor, name cursor with
      | some found, _ => return found
      | none, .ok (_, behind) => do group levels item (← skipBlanks behind)
      | none, .error _ => unnamed levels item cursor

/-- A node with some levels left. `inside` says that it stands in the parentheses of a value that
may be missing, and takes them for its own. -/
def node (extensions : Extensions) : (levels : Nat) → (inside : Bool) → NodeReader
  | 0, inside =>
    if inside then unwrapped 0 tooDeep else nodeWith extensions 0 (fun _ => tooDeep) tooDeep
  | 1, inside =>
    if inside then unwrapped 1 tooDeep else nodeWith extensions 1 (node extensions 0) tooDeep
  | levels + 2, inside =>
    if inside then unwrapped (levels + 2) (node extensions levels false)
    else nodeWith extensions (levels + 2) (node extensions (levels + 1))
      (node extensions levels false)

/-! ## Attributes -/

/-- A search for some marks in a row, each of which may have blanks behind it. -/
structure MarkSearch where
  cursor : Cursor
  found : Bool := true
  reason : Option Reason := none

def MarkSearch.mark (search : MarkSearch) (mark : String) : MarkSearch :=
  match behind? mark search.cursor with
  | none => { search with found := false }
  | some behind =>
    let (reason, cursor) := pastBlanks (behind.rest.length + 1) behind
    { search with cursor, reason := search.reason.or reason }

def marks (wanted : List String) (reason : Reason) (cursor : Cursor) : Except Fault Cursor :=
  let search := wanted.foldl MarkSearch.mark { cursor }
  match search.reason with
  | some reason => fail search.cursor reason
  | none => if search.found then .ok search.cursor else fail search.cursor reason

def Extensions.enable? (extensions : Extensions) : (name : String) → Option Extensions
  | "unwrap_newtypes" => some extensions
  | "implicit_some" => some { extensions with implicitSome := true }
  | "unwrap_variant_newtypes" => some { extensions with unwrapped := true }
  | _ => none

def extensionNames : (steps : Nat) → Extensions → Cursor → Except Fault (Extensions × Cursor)
  | 0, extensions, cursor => .ok (extensions, cursor)
  | steps + 1, extensions, cursor => do
    let (name, behind) ← name cursor
    match extensions.enable? name with
    | none => fail behind (.unknownExtension name)
    | some extensions =>
      let (separated, behind) ← comma behind
      if behind.rest.head?.any isNameCharacter then
        if separated then extensionNames steps extensions behind
        else fail behind .expectedComma
      else return (extensions, behind)

def attributes : (steps : Nat) → Extensions → Cursor → Except Fault (Extensions × Cursor)
  | 0, extensions, cursor => .ok (extensions, cursor)
  | steps + 1, extensions, cursor => do
    if cursor.rest.head? = some '#' then
      let behind ← marks ["#", "!", "[", "enable", "("] .expectedAttribute cursor
      let (extensions, behind) ← extensionNames (behind.rest.length + 1) extensions behind
      let behind ← marks [")", "]"] .expectedAttributeEnd (← skipBlanks behind)
      attributes steps extensions behind
    else return (extensions, cursor)

/-! ## Documents -/

def levelLimit : Nat := 128

def parse (text : String) : Except Fault Value := do
  let characters := text.toList
  let start ← skipBlanks ⟨characters, Position.start⟩
  let (extensions, start) ← attributes (characters.length + 1) {} start
  let (found, behind) ← node extensions levelLimit false start
  let behind ← skipBlanks behind
  if behind.rest.isEmpty then found.toValue else fail behind .trailing

end ChartDialogue.Markup.Ron
