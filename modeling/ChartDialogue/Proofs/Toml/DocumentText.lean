import ChartDialogue.Proofs.Toml.ValueText

/-! # Reading TOML documents back

A document of tables is read line by line: a header opens the next table, and every line under it
adds one value. What is read is the table of these tables, in their order.
-/

namespace ChartDialogue.Toml

/-! ## Entries in order -/

namespace Entries

def ofList : List (String × Node) → Entries
  | [] => nil
  | (key, node) :: rest => cons key node (ofList rest)

variable {key : String} {node old : Node} {front back : List (String × Node)}

theorem find?_ofList (free : key ∉ front.map Prod.fst) : (ofList front).find? key = none := by
  induction front with
  | nil => rfl
  | cons entry front induction =>
    rw [List.map_cons, List.mem_cons, not_or] at free
    rw [ofList, find?, if_neg free.1]
    exact induction free.2

theorem find?_ofList_append (free : key ∉ front.map Prod.fst) :
    (ofList (front ++ [(key, node)])).find? key = some node := by
  induction front with
  | nil => exact if_pos rfl
  | cons entry front induction =>
    rw [List.map_cons, List.mem_cons, not_or] at free
    rw [List.cons_append, ofList, find?, if_neg free.1]
    exact induction free.2

theorem set_ofList (free : key ∉ front.map Prod.fst) :
    (ofList front).set key node = ofList (front ++ [(key, node)]) := by
  induction front with
  | nil => rfl
  | cons entry front induction =>
    rw [List.map_cons, List.mem_cons, not_or] at free
    rw [List.cons_append, ofList, set, if_neg free.1, ofList, induction free.2]

theorem set_ofList_append (free : key ∉ front.map Prod.fst) :
    (ofList (front ++ [(key, old)])).set key node = ofList (front ++ [(key, node)]) := by
  induction front with
  | nil => exact if_pos rfl
  | cons entry front induction =>
    rw [List.map_cons, List.mem_cons, not_or] at free
    rw [List.cons_append, List.cons_append, ofList, set, if_neg free.1, ofList, induction free.2]

theorem finish_ofList (front : List (String × Node)) :
    (ofList front).finish = front.map fun entry => (entry.1, entry.2.finish) := by
  induction front with
  | nil => rfl
  | cons entry front induction =>
    rw [ofList, finish, induction]
    rfl

theorem notMem_of_nodup_append
    (different : ((front ++ (key, node) :: back).map Prod.fst).Nodup) :
    key ∉ front.map Prod.fst := by
  rw [List.map_append, List.nodup_append] at different
  intro member
  exact different.2.2 key member key (by simp) rfl

theorem define_ofList (free : key ∉ front.map Prod.fst) :
    define [] key (ofList front) = some (ofList (front ++ [(key, .table .defined nil)])) := by
  rw [define, change, find?_ofList free]
  exact congrArg some (set_ofList free)

theorem assignBelow_ofList {name : String} {inner : List (String × Node)} (value : Value)
    (freeName : name ∉ front.map Prod.fst) (freeKey : key ∉ inner.map Prod.fst) :
    assignBelow [name] [] key value (ofList (front ++ [(name, .table .defined (ofList inner))])) =
      some (ofList
        (front ++ [(name, .table .defined (ofList (inner ++ [(key, .value value)])))])) := by
  have assigned : assign [] key value .defined (ofList inner) =
      some (ofList (inner ++ [(key, .value value)])) := by
    rw [assign, change, if_neg (by simp), find?_ofList freeKey, if_neg (by simp),
      set_ofList freeKey]
  rw [assignBelow, change, find?_ofList_append freeName]
  dsimp only
  rw [if_neg (by simp), change, assigned]
  exact congrArg some (set_ofList_append freeName)

end Entries

/-! ## Keys -/

def isPlainKey (key : String) : Bool := ! key.toList.isEmpty && key.toList.all isKeyCharacter

variable {key : String} {rest behind : List Char}

theorem exists_first_of_isPlainKey (isKey : isPlainKey key) :
    ∃ first others, key.toList = first :: others ∧ isKeyCharacter first := by
  rw [isPlainKey, Bool.and_eq_true, List.all_eq_true] at isKey
  cases shown : key.toList with
  | nil => simp [shown] at isKey
  | cons first others =>
    exact ⟨first, others, rfl, isKey.2 first (by rw [shown]; exact List.mem_cons_self)⟩

theorem isStop_of_isKeyCharacter {character : Char} (isKey : isKeyCharacter character) :
    isStop character :=
  isStop_of_holds isKey rfl

theorem simpleKey?_of_isPlainKey (isKey : isPlainKey key) {stop : Char}
    (ends : isKeyCharacter stop = false) :
    simpleKey? (key.toList ++ stop :: rest) = some (key, stop :: rest) := by
  obtain ⟨first, others, shown, isFirst⟩ := exists_first_of_isPlainKey isKey
  rw [isPlainKey, Bool.and_eq_true, List.all_eq_true] at isKey
  have front : (key.toList ++ stop :: rest).takeWhile isKeyCharacter = key.toList := by
    rw [List.takeWhile_append_of_pos isKey.2, List.takeWhile_cons_of_neg (by simp [ends]),
      List.append_nil]
  have behind : (key.toList ++ stop :: rest).dropWhile isKeyCharacter = stop :: rest := by
    rw [List.dropWhile_append_of_pos isKey.2, List.dropWhile_cons_of_neg (by simp [ends])]
  rw [shown] at front behind ⊢
  unfold simpleKey?
  split
  · rename_i same
    cases same
    cases isFirst
  · rename_i same
    cases same
    cases isFirst
  · rw [front, behind]
    dsimp only
    rw [← shown, String.ofList_toList]

theorem keys?_of_isPlainKey (isKey : isPlainKey key) (parts : Nat) {stop next : Char}
    (ends : isKeyCharacter stop = false) (blanks : skipBlanks (stop :: rest) = next :: behind)
    (notDot : next ≠ '.') :
    keys? (parts + 1) (key.toList ++ stop :: rest) = some ([key], next :: behind) := by
  have start : skipBlanks (key.toList ++ stop :: rest) = key.toList ++ stop :: rest := by
    obtain ⟨first, others, shown, isFirst⟩ := exists_first_of_isPlainKey isKey
    rw [shown]
    exact skipBlanks_of_stop (isStop_of_isKeyCharacter isFirst) _
  rw [keys?, start, simpleKey?_of_isPlainKey isKey ends]
  simp only [bind, Option.bind, blanks]
  split
  · rename_i same
    cases same
    exact absurd rfl notDot
  · rfl

/-! ## Lines of a document -/

variable {document : Document} {root : Entries} {characters : List Char}

theorem readLines?_header {steps : Nat} {first : Char} (noArray : first ≠ '[') :
    readLines? (steps + 1) document ('[' :: first :: rest) =
      (header? document false (first :: rest)).bind fun (document, rest) =>
        readLines? steps document rest := by
  have stop : isStop '[' := by decide
  have opens := skipLines_of_stop stop (skipBlanks_of_stop stop (first :: rest))
    ('[' :: first :: rest).length
  rw [readLines?.eq_def]
  dsimp only
  rw [opens]
  simp only [bind, Option.bind]
  split
  · rename_i same
    cases same
  · rename_i same
    cases same
    exact absurd rfl noArray
  · rename_i same
    cases same
    rfl
  · rename_i other
    exact absurd rfl (other _)

theorem readLines?_entry {steps : Nat} {first : Char} (isKey : isKeyCharacter first) :
    readLines? (steps + 1) document (first :: rest) =
      ( entry? document (first :: rest)).bind fun (document, rest) =>
        readLines? steps document rest := by
  have stop := isStop_of_isKeyCharacter isKey
  have opens := skipLines_of_stop stop (skipBlanks_of_stop stop rest)
    (first :: rest).length
  rw [readLines?.eq_def]
  dsimp only
  rw [opens]
  simp only [bind, Option.bind]
  split
  · rename_i same
    cases same
  · rename_i same
    cases same
    cases isKey
  · rename_i same
    cases same
    cases isKey
  · rfl

/-- Whether entries are what a document becomes when more characters are read. -/
def Reads (document : Document) (characters : List Char) (root : Entries) : Prop :=
  ∀ steps, characters.length < steps →
    (readLines? steps document characters).map Document.root = some root

theorem reads_nil (document : Document) : Reads document [] document.root
  | _ + 1, _ => rfl

theorem Reads.lineFeed (later : Reads document characters root) :
    Reads document ('\n' :: characters) root
  | steps + 1, enough => by
    have same : readLines? (steps + 1) document ('\n' :: characters) =
        readLines? (steps + 1) document characters := by
      rw [readLines?.eq_def, readLines?.eq_def]
      rfl
    rw [same]
    exact later (steps + 1) (Nat.lt_of_succ_lt enough)

theorem endLine?_lineFeed (characters : List Char) :
    endLine? ('\n' :: characters) = some characters := rfl

theorem Reads.header {front : List (String × Node)} {path : List String} {name : String}
    (isKey : isPlainKey name) (free : name ∉ front.map Prod.fst)
    (later : Reads ⟨.ofList (front ++ [(name, .table .defined .nil)]), [name]⟩ characters root) :
    Reads ⟨.ofList front, path⟩ ('[' :: (name.toList ++ ']' :: '\n' :: characters)) root
  | steps + 1, enough => by
    have keys : keys? depthLimit (name.toList ++ ']' :: '\n' :: characters) =
        some ([name], ']' :: '\n' :: characters) :=
      keys?_of_isPlainKey isKey 78 rfl (skipBlanks_of_stop (by decide) _) (by decide)
    have header : header? ⟨.ofList front, path⟩ false (name.toList ++ ']' :: '\n' :: characters) =
        some (⟨.ofList (front ++ [(name, .table .defined .nil)]), [name]⟩, characters) := by
      rw [header?, keys]
      simp only [bind, Option.bind, splitLast?, List.dropLast_singleton, List.getLast?_nil,
        Option.getD_none, expect?, if_true, Bool.false_eq_true, if_false,
        Entries.define_ofList free, endLine?_lineFeed]
      rfl
    have length : characters.length < steps := by
      simp only [List.length_cons, List.length_append] at enough
      omega
    obtain ⟨first, others, shown, isFirst⟩ := exists_first_of_isPlainKey isKey
    rw [shown, List.cons_append] at header ⊢
    rw [readLines?_header (ne_of_holds isFirst rfl), header]
    exact later steps length

/-! ## Lines under a header -/

structure Line where
  key : String
  text : String
  value : Value

namespace Line

def written (line : Line) : List Char :=
  line.key.toList ++ ' ' :: '=' :: ' ' :: (line.text.toList ++ ['\n'])

structure IsReadable (line : Line) : Prop where
  isKey : isPlainKey line.key
  start : ∃ first others, line.text.toList = first :: others ∧ isStop first
  read : ∀ rest, value? depthLimit (line.text.toList ++ '\n' :: rest) =
    some (line.value, '\n' :: rest)
  settled : line.value.settle? = some line.value

def node (line : Line) : String × Node := (line.key, .value line.value)

def entry (line : Line) : String × Value := (line.key, line.value)

end Line

theorem Reads.line {front : List (String × Node)} {name : String} {inner : List (String × Node)}
    {line : Line} (readable : line.IsReadable) (freeName : name ∉ front.map Prod.fst)
    (freeKey : line.key ∉ inner.map Prod.fst)
    (later : Reads
      ⟨.ofList (front ++ [(name, .table .defined (.ofList (inner ++ [line.node])))]), [name]⟩
      characters root) :
    Reads ⟨.ofList (front ++ [(name, .table .defined (.ofList inner))]), [name]⟩
      (line.written ++ characters) root
  | steps + 1, enough => by
    have text : line.written ++ characters =
        line.key.toList ++ ' ' :: '=' :: ' ' :: (line.text.toList ++ '\n' :: characters) := by
      simp [Line.written]
    have equals : skipBlanks (' ' :: '=' :: ' ' :: (line.text.toList ++ '\n' :: characters)) =
        '=' :: ' ' :: (line.text.toList ++ '\n' :: characters) := rfl
    have blanks : skipBlanks (' ' :: (line.text.toList ++ '\n' :: characters)) =
        line.text.toList ++ '\n' :: characters := by
      obtain ⟨first, others, shown, stop⟩ := readable.start
      rw [skipBlanks, List.dropWhile_cons_of_pos rfl, shown]
      exact skipBlanks_of_stop stop _
    have keys := keys?_of_isPlainKey readable.isKey 78 rfl equals (by decide)
    have entry : entry? ⟨.ofList (front ++ [(name, .table .defined (.ofList inner))]), [name]⟩
        (line.written ++ characters) =
          some (⟨.ofList (front ++ [(name, .table .defined (.ofList (inner ++ [line.node])))]),
            [name]⟩, characters) := by
      rw [text, entry?, depthLimit, keys]
      simp only [bind, Option.bind, splitLast?, List.dropLast_singleton, List.getLast?_nil,
        Option.getD_none, expect?, if_true, blanks]
      rw [← depthLimit, readable.read]
      dsimp only
      rw [Entries.assignBelow_ofList line.value freeName freeKey]
      rfl
    have length : characters.length < steps := by
      rw [text] at enough
      simp only [List.length_cons, List.length_append] at enough
      omega
    obtain ⟨first, others, shown, isFirst⟩ := exists_first_of_isPlainKey readable.isKey
    rw [text, shown, List.cons_append] at entry ⊢
    rw [readLines?_entry isFirst, entry]
    exact later steps length

theorem Reads.lines {front : List (String × Node)} {name : String}
    (freeName : name ∉ front.map Prod.fst) (inner : List (String × Node)) {lines : List Line}
    (readable : ∀ line ∈ lines, line.IsReadable)
    (different : ((inner ++ lines.map Line.node).map Prod.fst).Nodup)
    (later : Reads
      ⟨.ofList (front ++ [(name, .table .defined (.ofList (inner ++ lines.map Line.node)))]),
        [name]⟩ characters root) :
    Reads ⟨.ofList (front ++ [(name, .table .defined (.ofList inner))]), [name]⟩
      (lines.flatMap Line.written ++ characters) root := by
  induction lines generalizing inner with
  | nil => simpa using later
  | cons line lines induction =>
    have freeKey : line.key ∉ inner.map Prod.fst :=
      Entries.notMem_of_nodup_append different
    rw [List.map_cons, List.append_cons inner] at different later
    rw [List.flatMap_cons, List.append_assoc]
    exact .line (readable line List.mem_cons_self) freeName freeKey
      (induction (inner ++ [line.node])
        (fun other member => readable other (List.mem_cons_of_mem line member)) different later)

/-! ## Tables one after the other -/

structure Table where
  name : String
  lines : List Line

namespace Table

def written (table : Table) : List Char :=
  '[' :: (table.name.toList ++ ']' :: '\n' :: table.lines.flatMap Line.written)

structure IsReadable (table : Table) : Prop where
  isKey : isPlainKey table.name
  lines : ∀ line ∈ table.lines, line.IsReadable
  different : (table.lines.map Line.key).Nodup

def node (table : Table) : String × Node :=
  (table.name, .table .defined (.ofList (table.lines.map Line.node)))

def entry (table : Table) : String × Value :=
  (table.name, .table (table.lines.map Line.entry))

end Table

theorem Reads.table {front : List (String × Node)} {path : List String} {table : Table}
    (readable : table.IsReadable) (free : table.name ∉ front.map Prod.fst)
    (later : Reads ⟨.ofList (front ++ [table.node]), [table.name]⟩ characters root) :
    Reads ⟨.ofList front, path⟩ (table.written ++ characters) root := by
  have different :
      ((([] : List (String × Node)) ++ table.lines.map Line.node).map Prod.fst).Nodup := by
    rw [List.nil_append, List.map_map]
    exact readable.different
  have lines := Reads.lines free [] readable.lines different later
  have text : table.written ++ characters = '[' :: (table.name.toList ++ ']' :: '\n' ::
      (table.lines.flatMap Line.written ++ characters)) := by
    simp [Table.written]
  rw [text]
  exact .header readable.isKey free lines

def writtenBehind (tables : List Table) : List Char :=
  tables.flatMap fun table => '\n' :: table.written

theorem reads_writtenBehind {tables : List Table} (readable : ∀ table ∈ tables, table.IsReadable) :
    (front : List (String × Node)) → (path : List String) →
    ((front ++ tables.map Table.node).map Prod.fst).Nodup →
      Reads ⟨.ofList front, path⟩ (writtenBehind tables)
        (.ofList (front ++ tables.map Table.node)) := by
  induction tables with
  | nil =>
    intro front path _
    rw [List.map_nil, List.append_nil]
    exact reads_nil _
  | cons table tables induction =>
    intro front path different
    have free : table.name ∉ front.map Prod.fst :=
      Entries.notMem_of_nodup_append different
    rw [List.map_cons, List.append_cons front] at different ⊢
    have others := induction
      (fun other member => readable other (List.mem_cons_of_mem table member))
      (front ++ [table.node]) [table.name] different
    exact .lineFeed (.table (readable table List.mem_cons_self) free others)

/-! ## Values of documents -/

theorem ne_momentMark_of_isPlainKey (isKey : isPlainKey key) : key ≠ momentMark := by
  rintro rfl
  exact absurd isKey (by decide +kernel)

theorem settleEntries?_eq {entries : List (String × Value)}
    (settled : ∀ entry ∈ entries, entry.2.settle? = some entry.2) :
    settleEntries? entries = some entries := by
  induction entries with
  | nil => rfl
  | cons entry entries induction =>
    have others := induction fun other member => settled other (List.mem_cons_of_mem entry member)
    rw [settleEntries?, settled entry List.mem_cons_self, others]
    rfl

/-- A table whose values stay as they are stays as it is, if its first key is no mark. -/
theorem settle?_table {entries : List (String × Value)}
    (noMark : ∀ entry ∈ entries, entry.1 ≠ momentMark)
    (settled : ∀ entry ∈ entries, entry.2.settle? = some entry.2) :
    (Value.table entries).settle? = some (.table entries) := by
  cases entries with
  | nil => rfl
  | cons entry entries =>
    have others := settleEntries?_eq fun other member =>
      settled other (List.mem_cons_of_mem entry member)
    rw [Value.settle?, if_neg (noMark entry List.mem_cons_self),
      settled entry List.mem_cons_self, others]
    rfl

theorem settleElements?_strings (texts : List String) :
    settleElements? (texts.map .string) = some (texts.map .string) := by
  induction texts with
  | nil => rfl
  | cons text texts induction =>
    rw [List.map_cons, settleElements?, induction]
    rfl

theorem finish_node (table : Table) :
    (table.node.1, table.node.2.finish) = table.entry := by
  rw [Table.node, Table.entry, Node.finish, Entries.finish_ofList, List.map_map]
  rfl

/-- A document of readable tables is read back as their table. -/
theorem parse?_written {text : String} {first : Table} {others : List Table}
    (written : text.toList = first.written ++ writtenBehind others)
    (readable : ∀ table ∈ first :: others, table.IsReadable)
    (different : ((first :: others).map Table.name).Nodup) :
    parse? text = some (.table ((first :: others).map Table.entry)) := by
  have names : (((first :: others).map Table.node).map Prod.fst).Nodup := by
    rw [List.map_map]
    exact different
  have reads : Reads ⟨.ofList [], []⟩ text.toList (.ofList ((first :: others).map Table.node)) := by
    rw [written]
    exact .table (readable first List.mem_cons_self) List.not_mem_nil
      (reads_writtenBehind (fun table member => readable table (List.mem_cons_of_mem first member))
        [first.node] [first.name] names)
  have noMark : dropByteOrder text.toList = text.toList := by
    rw [written]
    rfl
  have whole := reads (text.toList.length + 1) (Nat.lt_succ_self _)
  obtain ⟨document, lines, root⟩ := Option.map_eq_some_iff.mp whole
  have finished : document.root.finish = (first :: others).map Table.entry := by
    rw [root, Entries.finish_ofList, List.map_map]
    exact List.map_congr_left fun table _ => finish_node table
  have settled : (Value.table ((first :: others).map Table.entry)).settle? =
      some (.table ((first :: others).map Table.entry)) := by
    refine settle?_table ?_ ?_
    · intro entry member
      obtain ⟨table, inside, rfl⟩ := List.mem_map.mp member
      exact ne_momentMark_of_isPlainKey (readable table inside).isKey
    · intro entry member
      obtain ⟨table, inside, rfl⟩ := List.mem_map.mp member
      refine settle?_table ?_ ?_
      · intro entry member
        obtain ⟨line, inner, rfl⟩ := List.mem_map.mp member
        exact ne_momentMark_of_isPlainKey ((readable table inside).lines line inner).isKey
      · intro entry member
        obtain ⟨line, inner, rfl⟩ := List.mem_map.mp member
        exact ((readable table inside).lines line inner).settled
  rw [parse?, noMark]
  simp only [bind, Option.bind]
  rw [show (⟨.nil, []⟩ : Document) = ⟨.ofList [], []⟩ from rfl, lines]
  dsimp only
  rw [finished, settled]

end ChartDialogue.Toml
