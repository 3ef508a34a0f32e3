import ChartDialogue.Proofs.Json.PointerText
import ChartDialogue.Proofs.Toml.StringText
import ChartDialogue.Toml.Reader
import Mathlib.Data.List.TakeWhile

/-! # Reading TOML values back

Strings, truth values, small numbers and arrays of strings are read back from where they end a line.
-/

namespace ChartDialogue.Toml

variable {rest : List Char} {depth : Nat}

/-! ## Blanks -/

def isStop (character : Char) : Bool :=
  ! isBlank character && character != '#' && character != '\n' && character != '\r'

theorem ne_of_holds {holds : Char → Bool} {character other : Char} (here : holds character)
    (notThere : holds other = false) : character ≠ other := by
  rintro rfl
  rw [here] at notThere
  cases notThere

theorem isStop_of_holds {holds : Char → Bool} {character : Char} (here : holds character)
    (notThere : [' ', '\t', '#', '\n', '\r'].any holds = false) : isStop character := by
  have different (other : Char) (member : other ∈ [' ', '\t', '#', '\n', '\r']) :
      character ≠ other :=
    ne_of_holds here (eq_false_of_ne_true (List.any_eq_false.mp notThere other member))
  simp [isStop, isBlank, different]

theorem skipBlanks_of_stop {character : Char} (stop : isStop character) (rest : List Char) :
    skipBlanks (character :: rest) = character :: rest := by
  have visible : isBlank character = false := by
    simp only [isStop, Bool.and_eq_true, Bool.not_eq_true'] at stop
    exact stop.1.1.1
  rw [skipBlanks, List.dropWhile_cons_of_neg (by simp [visible])]

theorem skipLines_of_stop {character : Char} (stop : isStop character) {characters : List Char}
    (blanks : skipBlanks characters = character :: rest) (steps : Nat) :
    skipLines (steps + 1) characters = some (character :: rest) := by
  have others : character ≠ '#' ∧ character ≠ '\n' ∧ character ≠ '\r' := by
    simp only [isStop, Bool.and_eq_true, bne_iff_ne] at stop
    exact ⟨stop.1.1.2, stop.1.2, stop.2⟩
  have noComment : skipComment (character :: rest) = some (character :: rest) := by
    unfold skipComment
    split
    · rename_i same
      cases same
      exact absurd rfl others.1
    · rfl
  rw [skipLines, blanks, noComment]
  simp only [bind, Option.bind, lineBreak?_of_ne others.2.1 others.2.2]
  rfl

theorem skipLines_lineFeed (steps : Nat) (characters : List Char) :
    skipLines (steps + 1) ('\n' :: characters) = skipLines steps characters := rfl

/-! ## Scalars -/

theorem value?_of_stringMark {mark : Char} (isMark : mark = '"' ∨ mark = '\'')
    (characters : List Char) :
    value? depth (mark :: characters) =
      (string? (mark :: characters)).map fun (text, rest) => (.string text, rest) := by
  rcases isMark with rfl | rfl <;> cases depth <;> rfl

theorem value?_renderString (depth : Nat) (text : String) (ends : EndsString rest) :
    value? depth ((renderString text).toList ++ rest) = some (.string text, rest) := by
  obtain ⟨mark, characters, written, isMark⟩ := renderString_eq_cons text
  have read := string?_renderString text ends
  rw [written, List.cons_append] at read ⊢
  rw [value?_of_stringMark isMark, read]
  rfl

theorem endsString_of_ne {character : Char} (notQuote : character ≠ '"')
    (notApostrophe : character ≠ '\'') (rest : List Char) : EndsString (character :: rest) where
  quote := by simpa using notQuote
  apostrophe := by simpa using notApostrophe

theorem isScalarCharacter_of_isDigit {character : Char} (digit : character.isDigit) :
    isScalarCharacter character := by
  simp [isScalarCharacter, Char.isAlphanum, digit]

/-! ### Integers

Digits could begin a date, a time or a float, but none of them is digits alone. -/

section

variable {digits : List Char} (isDigit : ∀ digit ∈ digits, digit.isDigit = true)
include isDigit

theorem expect?_of_isDigit {wanted : Char} (other : wanted.isDigit = false) :
    expect? wanted digits = none := by
  cases digits with
  | nil => rfl
  | cons digit digits =>
    refine if_neg ?_
    rintro rfl
    exact absurd (isDigit digit List.mem_cons_self) (by simp [other])

theorem expect?_of_fixedDigits? {count bound number : Nat} {behind : List Char}
    (front : fixedDigits? count bound digits = some (number, behind)) (wanted : Char)
    (other : wanted.isDigit = false) : expect? wanted behind = none := by
  have dropped : behind = digits.drop count := by
    unfold fixedDigits? at front
    dsimp only at front
    split at front
    · cases front
      rfl
    · cases front
  rw [dropped]
  exact expect?_of_isDigit (fun digit member => isDigit digit (List.mem_of_mem_drop member)) other

theorem moment?_of_isDigit : moment? digits = none := by
  have noDate : date? digits = none := by
    unfold date?
    cases year : fixedDigits? 4 9999 digits with
    | none => rfl
    | some front =>
      have noMark := expect?_of_fixedDigits? isDigit year '-' rfl
      simp only [bind, Option.bind, noMark]
  have noTime : time? digits = none := by
    unfold time?
    cases hour : fixedDigits? 2 23 digits with
    | none => rfl
    | some front =>
      have noMark := expect?_of_fixedDigits? isDigit hour ':' rfl
      simp only [bind, Option.bind, noMark]
  rw [moment?, noDate]
  dsimp only
  rw [noTime]
  rfl

theorem ne_of_isDigit {word : List Char} (letter : word.any fun character => ! character.isDigit) :
    digits ≠ word := by
  rintro rfl
  obtain ⟨character, member, noDigit⟩ := List.any_eq_true.mp letter
  simp [isDigit character member] at noDigit

theorem takeSign_of_isDigit : Digits.takeSign digits = (false, digits) := by
  unfold Digits.takeSign
  split
  · exact absurd (isDigit '-' List.mem_cons_self) (by decide)
  · exact absurd (isDigit '+' List.mem_cons_self) (by decide)
  · rfl

theorem float?_of_isDigit : float? digits = none := by
  have stays (digit : Char) (member : digit ∈ digits) : ¬ ['.', 'e', 'E'].contains digit := by
    have isDigit := isDigit digit member
    intro stop
    simp only [List.contains_iff_mem, List.mem_cons, List.not_mem_nil, or_false] at stop
    rcases stop with rfl | rfl | rfl <;> exact absurd isDigit (by decide)
  have whole : splitBefore ['.', 'e', 'E'] digits = (digits, []) := by
    have keeps : ∀ digit ∈ digits, (decide ¬ ['.', 'e', 'E'].contains digit) = true :=
      fun digit member => decide_eq_true (stays digit member)
    rw [splitBefore, List.takeWhile_eq_self_iff.mpr keeps, List.dropWhile_eq_nil_iff.mpr keeps]
  have noDecimal : decimalFloat? digits = none := by
    rw [decimalFloat?, takeSign_of_isDigit isDigit]
    dsimp only
    rw [whole]
    cases decimalDigits? digits <;> rfl
  rw [float?, takeSign_of_isDigit isDigit]
  dsimp only
  rw [if_neg (ne_of_isDigit isDigit (by decide)), if_neg (ne_of_isDigit isDigit (by decide)),
    noDecimal]

theorem plainDigits?_of_isDigit (nonempty : digits ≠ []) :
    plainDigits? 10 digits = some digits := by
  have decimal (digit : Char) (isDigit : digit.isDigit = true) : Digits.isDigit 10 digit := by
    have read := Option.filter_eq_some_iff.mp (digitValue?_of_isDigit isDigit)
    rw [Digits.isDigit, read.1]
    exact read.2
  induction digits with
  | nil => exact absurd rfl nonempty
  | cons first digits induction =>
    have here := decimal first (isDigit first List.mem_cons_self)
    have later := induction fun digit member => isDigit digit (List.mem_cons_of_mem first member)
    cases digits with
    | nil => simp [plainDigits?, here]
    | cons second digits =>
      have notUnderscore : second ≠ '_' := by
        rintro rfl
        exact absurd (isDigit '_' (by simp)) (by decide)
      rw [plainDigits?.eq_4 10 first (second :: digits) (by simp) (by simpa using notUnderscore),
        if_pos here, later (by simp)]
      rfl

end

theorem total_toDigits (number : Nat) :
    Digits.total 10 (Nat.toDigits 10 number) = number := by
  have read := Pointer.natural?_toDigits number
  unfold Digits.natural? at read
  split at read
  · cases read
  · exact Option.some.inj read

theorem word?_withSign {number : Nat} (fits : Word.fitsSigned number) :
    word? (Digits.withSign false number) = some (.integer number) := by
  have unsigned : Digits.withSign false number = number := by simp [Digits.withSign]
  rw [unsigned, word?, if_pos fits]

theorem integer?_toDigits {number : Nat} (fits : Word.fitsSigned number) :
    integer? (Nat.toDigits 10 number) = some (.integer number) := by
  obtain ⟨nonempty, isDigit, zeroAlone⟩ := isNumeral_toDigits number
  have decimal : decimalDigits? (Nat.toDigits 10 number) = some (Nat.toDigits 10 number) := by
    rw [decimalDigits?, plainDigits?_of_isDigit isDigit nonempty]
    split
    · rename_i second rest same
      cases zeroAlone _ (Option.some.inj same)
    · rfl
  have noBase (digits : List Char) (mark : Char) : Nat.toDigits 10 number ≠ '0' :: mark :: digits :=
    fun same => nomatch zeroAlone _ same
  rw [integer?.eq_4 _ (fun digits => noBase digits 'x') (fun digits => noBase digits 'o')
      (fun digits => noBase digits 'b'), takeSign_of_isDigit isDigit]
  dsimp only
  rw [decimal, Option.bind_some, total_toDigits, word?_withSign fits]

theorem scalar?_toDigits {number : Nat} (fits : Word.fitsSigned number) :
    scalar? (Nat.toDigits 10 number) = some (.integer number) := by
  have isDigit := isDigit_toDigits number
  rw [scalar?, if_neg (ne_of_isDigit isDigit (by decide)),
    if_neg (ne_of_isDigit isDigit (by decide)), moment?_of_isDigit isDigit,
    float?_of_isDigit isDigit, integer?_toDigits fits]
  rfl

def OpensNothing (character : Char) : Prop :=
  character ≠ '[' ∧ character ≠ '\x7b' ∧ character ≠ '"' ∧ character ≠ '\''

theorem opensNothing_of_isDigit {character : Char} (digit : character.isDigit) :
    OpensNothing character :=
  ⟨ne_of_holds digit rfl, ne_of_holds digit rfl, ne_of_holds digit rfl, ne_of_holds digit rfl⟩

theorem isStop_of_isDigit {character : Char} (digit : character.isDigit) : isStop character :=
  isStop_of_holds digit rfl

theorem toDigits_eq_cons (number : Nat) :
    ∃ first others, Nat.toDigits 10 number = first :: others ∧ first.isDigit := by
  cases shown : Nat.toDigits 10 number with
  | nil => exact absurd shown Nat.toDigits_ne_nil
  | cons first others =>
    exact ⟨first, others, rfl, isDigit_toDigits number first (by rw [shown]; exact .head others)⟩

theorem value?_of_opensNothing {character : Char} (opens : OpensNothing character)
    (characters : List Char) :
    value? depth (character :: characters) =
      (scalar? (scalarRun (character :: characters)).1).map fun value =>
        (value, (scalarRun (character :: characters)).2) := by
  obtain ⟨noArray, noTable, noQuote, noApostrophe⟩ := opens
  unfold value?
  split
  · rename_i same
    cases same
    exact absurd rfl noArray
  · rename_i same
    cases same
    exact absurd rfl noTable
  · split
    · rename_i same
      cases same
      exact absurd rfl noQuote
    · rename_i same
      cases same
      exact absurd rfl noApostrophe
    · rfl

/-- Digits at the end of a line are read as their number. -/
theorem value?_toDigits (depth : Nat) {number : Nat} (fits : Word.fitsSigned number)
    (rest : List Char) :
    value? depth (Nat.toDigits 10 number ++ '\n' :: rest) =
      some (.integer number, '\n' :: rest) := by
  have scalar (digit : Char) (member : digit ∈ Nat.toDigits 10 number) :
      isScalarCharacter digit :=
    isScalarCharacter_of_isDigit (isDigit_toDigits number digit member)
  have run : scalarRun (Nat.toDigits 10 number ++ '\n' :: rest) =
      (Nat.toDigits 10 number, '\n' :: rest) := by
    rw [scalarRun, List.takeWhile_append_of_pos scalar, List.dropWhile_append_of_pos scalar]
    simp [isScalarCharacter]
  have read := scalar?_toDigits fits
  obtain ⟨first, others, shown, digit⟩ := toDigits_eq_cons number
  rw [shown] at read
  rw [shown, List.cons_append] at run ⊢
  rw [value?_of_opensNothing (opensNothing_of_isDigit digit), run]
  dsimp only
  rw [read]
  rfl

theorem value?_flag (depth : Nat) (value : Bool) (rest : List Char) :
    value? depth ((if value then "true" else "false").toList ++ '\n' :: rest) =
      some (.boolean value, '\n' :: rest) := by
  cases value <;> cases depth <;> rfl

/-! ## Arrays of strings -/

/-- An array of strings as it is written: up to one on the line, more on lines of their own. -/
def listText (texts : List String) : String :=
  match texts.map renderString with
  | [] => "[]"
  | [text] => "[" ++ text ++ "]"
  | several => "[\n" ++ String.join (several.map fun text => "    " ++ text ++ ",\n") ++ "]"

def elementLines (texts : List String) (rest : List Char) : List Char :=
  '\n' :: texts.foldr (fun text lines =>
    List.replicate 4 ' ' ++ ((renderString text).toList ++ ',' :: '\n' :: lines)) (']' :: rest)

theorem skipLines_renderString (blanks : List Char) (blank : blanks.all isBlank) (text : String)
    (rest : List Char) (steps : Nat) :
    skipLines (steps + 1) (blanks ++ ((renderString text).toList ++ rest)) =
      some ((renderString text).toList ++ rest) := by
  obtain ⟨mark, characters, written, isMark⟩ := renderString_eq_cons text
  have stop : isStop mark := by rcases isMark with rfl | rfl <;> decide
  rw [written, List.cons_append]
  refine skipLines_of_stop stop ?_ steps
  rw [skipBlanks, List.dropWhile_append_of_pos (List.all_eq_true.mp blank)]
  exact skipBlanks_of_stop stop _

section

variable {steps : Nat} {read : List Value} {characters : List Char}

theorem elements?_close {element : List Char → Option (Value × List Char)}
    (closes : skipLines (characters.length + 1) characters = some (']' :: rest)) :
    elements? element (steps + 1) read characters = some (read.reverse, rest) := by
  rw [elements?, closes]
  rfl

theorem elements?_string (text : String) {behind : Char}
    (notQuote : behind ≠ '"') (notApostrophe : behind ≠ '\'') (stop : isStop behind)
    (opens : skipLines (characters.length + 1) characters =
      some ((renderString text).toList ++ behind :: rest)) :
    elements? (value? depth) (steps + 1) read characters =
      match behind :: rest with
      | ',' :: rest => elements? (value? depth) steps (.string text :: read) rest
      | ']' :: rest => some ((.string text :: read).reverse, rest)
      | _ => none := by
  have value := value?_renderString depth text (endsString_of_ne notQuote notApostrophe rest)
  have next := skipLines_of_stop stop (skipBlanks_of_stop stop rest)
    (behind :: rest).length
  obtain ⟨mark, others, written, isMark⟩ := renderString_eq_cons text
  rw [written, List.cons_append] at opens value
  rw [elements?, opens]
  dsimp only [bind, Option.bind]
  split
  · rename_i same
    cases same
    rcases isMark with same | same <;> cases same
  · rw [value]
    dsimp only
    rw [next]
    rfl

end

theorem skipLines_elementLines_nil (rest : List Char) :
    skipLines ((elementLines [] rest).length + 1) (elementLines [] rest) = some (']' :: rest) := by
  rw [elementLines, List.length_cons, skipLines_lineFeed]
  exact skipLines_of_stop (by decide) (skipBlanks_of_stop (by decide) _) _

theorem skipLines_elementLines_cons (text : String) (texts : List String) (rest : List Char) :
    skipLines ((elementLines (text :: texts) rest).length + 1) (elementLines (text :: texts) rest) =
      some ((renderString text).toList ++ ',' :: elementLines texts rest) := by
  rw [elementLines, List.length_cons, skipLines_lineFeed]
  exact skipLines_renderString (List.replicate 4 ' ') (by decide) text
    (',' :: elementLines texts rest) _

theorem elements?_elementLines (depth : Nat) (rest : List Char) : (texts : List String) →
    {steps : Nat} → texts.length < steps → (read : List Value) →
      elements? (value? depth) steps read (elementLines texts rest) =
        some (read.reverse ++ texts.map .string, rest)
  | [], steps + 1, _, read => by
    rw [elements?_close (skipLines_elementLines_nil rest)]
    simp
  | text :: texts, steps + 1, enough, read => by
    have others := elements?_elementLines depth rest texts (Nat.lt_of_succ_lt_succ enough)
      (.string text :: read)
    refine (elements?_string text (by decide) (by decide) (by decide)
      (skipLines_elementLines_cons text texts rest)).trans (others.trans ?_)
    simp

theorem length_le_elementLines (texts : List String) (rest : List Char) :
    texts.length ≤ (elementLines texts rest).length := by
  induction texts with
  | nil => exact Nat.zero_le _
  | cons text texts induction =>
    simp only [elementLines, List.foldr_cons, List.length_cons, List.length_append] at induction ⊢
    omega

theorem listText_eq_cons (texts : List String) :
    ∃ characters, (listText texts).toList = '[' :: characters := by
  match texts with
  | [] => exact ⟨_, rfl⟩
  | [text] => exact ⟨(renderString text).toList ++ [']'], by simp [listText]⟩
  | first :: second :: others => simp [listText]

/-- A written array of strings is read back as its texts. -/
theorem value?_listText (depth : Nat) (texts : List String) (rest : List Char) :
    value? (depth + 1) ((listText texts).toList ++ rest) =
      some (.array (texts.map .string), rest) := by
  have array (characters : List Char) (elements : List Value)
      (read : elements? (value? depth) (characters.length + 1) [] characters =
        some (elements, rest)) :
      value? (depth + 1) ('[' :: characters) = some (.array elements, rest) := by
    rw [value?, read]
    rfl
  match texts with
  | [] => exact array _ _ (elements?_close rfl)
  | [text] =>
    have opens : skipLines (((renderString text).toList ++ ']' :: rest).length + 1)
        ((renderString text).toList ++ ']' :: rest) =
          some ((renderString text).toList ++ ']' :: rest) :=
      skipLines_renderString [] rfl text (']' :: rest) _
    have written : (listText [text]).toList ++ rest =
        '[' :: ((renderString text).toList ++ ']' :: rest) := by
      simp [listText]
    rw [written]
    exact array _ _ (elements?_string text (by decide) (by decide) (by decide) opens)
  | first :: second :: others =>
    have lines (texts : List String) : (String.join ((texts.map renderString).map fun text =>
        "    " ++ text ++ ",\n")).toList ++ ']' :: rest =
        texts.foldr (fun text lines =>
          List.replicate 4 ' ' ++ ((renderString text).toList ++ ',' :: '\n' :: lines))
          (']' :: rest) := by
      induction texts with
      | nil => rfl
      | cons text texts induction =>
        rw [List.foldr_cons, ← induction]
        simp
    have written : (listText (first :: second :: others)).toList ++ rest =
        '[' :: elementLines (first :: second :: others) rest := by
      rw [elementLines, ← lines (first :: second :: others)]
      simp [listText]
    have enough := length_le_elementLines (first :: second :: others) rest
    rw [written]
    exact array _ _ (elements?_elementLines depth rest (first :: second :: others)
      (Nat.lt_succ_of_le enough) [])

end ChartDialogue.Toml
