import ChartDialogue.Number.Word
import ChartDialogue.Toml.Value

/-! # Numbers, dates and times in TOML

A number, a date or a time is a run of characters without blanks, except that a date and a time may
be joined by one blank.
-/

namespace ChartDialogue.Toml

/-- Digits of a base with single underscores between them, without the underscores. -/
def plainDigits? (base : Nat) : List Char → Option (List Char)
  | [] => none
  | [digit] => if Digits.isDigit base digit then some [digit] else none
  | digit :: '_' :: rest =>
    if Digits.isDigit base digit then (digit :: ·) <$> plainDigits? base rest else none
  | digit :: rest =>
    if Digits.isDigit base digit then (digit :: ·) <$> plainDigits? base rest else none

/-! ## Integers -/

def word? (value : Int) : Option Value :=
  if Word.fitsSigned value then some (.integer value) else none

def decimalDigits? (characters : List Char) : Option (List Char) :=
  match plainDigits? 10 characters with
  | some ('0' :: _ :: _) => none
  | other => other

def integer? : List Char → Option Value
  | '0' :: 'x' :: digits =>
    (plainDigits? 16 digits).bind fun digits => word? (Digits.total 16 digits)
  | '0' :: 'o' :: digits =>
    (plainDigits? 8 digits).bind fun digits => word? (Digits.total 8 digits)
  | '0' :: 'b' :: digits =>
    (plainDigits? 2 digits).bind fun digits => word? (Digits.total 2 digits)
  | characters =>
    let (negative, digits) := Digits.takeSign characters
    (decimalDigits? digits).bind fun digits =>
      word? (Digits.withSign negative (Digits.total 10 digits))

/-! ## Floats -/

def splitBefore (stops : List Char) (characters : List Char) : List Char × List Char :=
  (characters.takeWhile fun character => ¬ stops.contains character,
    characters.dropWhile fun character => ¬ stops.contains character)

def exponent? : List Char → Option Int
  | _ :: rest =>
    let (negative, digits) := Digits.takeSign rest
    (plainDigits? 10 digits).map fun digits =>
      Digits.withSign negative (Digits.total 10 digits)
  | [] => some 0

/-- A float with a fraction, an exponent, or both. Too large a positive number is refused. -/
def decimalFloat? (characters : List Char) : Option Value := do
  let (negative, rest) := Digits.takeSign characters
  let (whole, rest) := splitBefore ['.', 'e', 'E'] rest
  let whole ← decimalDigits? whole
  guard (¬ rest.isEmpty)
  let (fraction, rest) := match rest with
    | '.' :: rest =>
      let (fraction, rest) := splitBefore ['e', 'E'] rest
      (plainDigits? 10 fraction, rest)
    | rest => (some [], rest)
  let fraction ← fraction
  let exponent ← exponent? rest
  match FloatValue.ofDecimal negative (Digits.total 10 (whole ++ fraction))
      (exponent - fraction.length) with
  | .infinite false => none
  | value => some (.float value)

def float? (characters : List Char) : Option Value :=
  let (negative, rest) := Digits.takeSign characters
  if rest = ['i', 'n', 'f'] then some (.float (.infinite negative))
  else if rest = ['n', 'a', 'n'] then some (.float .undefined)
  else decimalFloat? characters

/-! ## Dates and times -/

def fixedDigits? (count bound : Nat) (characters : List Char) : Option (Nat × List Char) :=
  let digits := characters.take count
  if digits.length = count ∧ digits.all Char.isDigit ∧ Digits.total 10 digits ≤ bound then
    some (Digits.total 10 digits, characters.drop count)
  else none

def expect? (wanted : Char) : List Char → Option (List Char)
  | character :: rest => if character = wanted then some rest else none
  | [] => none

def daysInMonth (year month : Nat) : Nat :=
  if month = 2 then
    if year % 4 = 0 ∧ (year % 100 ≠ 0 ∨ year % 400 = 0) then 29 else 28
  else if month = 4 ∨ month = 6 ∨ month = 9 ∨ month = 11 then 30
  else 31

def padded (width number : Nat) : List Char :=
  let digits := Nat.toDigits 10 number
  List.replicate (width - digits.length) '0' ++ digits

def date? (characters : List Char) : Option (List Char × List Char) := do
  let (year, rest) ← fixedDigits? 4 9999 characters
  let (month, rest) ← fixedDigits? 2 12 (← expect? '-' rest)
  let (day, rest) ← fixedDigits? 2 (daysInMonth year month) (← expect? '-' rest)
  guard (1 ≤ month ∧ 1 ≤ day)
  return (padded 4 year ++ '-' :: padded 2 month ++ '-' :: padded 2 day, rest)

/-- The digits of a fraction of a second, nine at most, without zeros at the end. -/
def fractionText (digits : List Char) : List Char :=
  match ((digits.take 9).reverse.dropWhile (· == '0')).reverse with
  | [] => []
  | digits => '.' :: digits

def time? (characters : List Char) : Option (List Char × List Char) := do
  let (hour, rest) ← fixedDigits? 2 23 characters
  let (minute, rest) ← fixedDigits? 2 59 (← expect? ':' rest)
  let (second, rest) ← fixedDigits? 2 60 (← expect? ':' rest)
  let text := padded 2 hour ++ ':' :: padded 2 minute ++ ':' :: padded 2 second
  match rest with
  | '.' :: rest =>
    let (digits, rest) := FloatValue.takeDigits rest
    guard (¬ digits.isEmpty)
    return (text ++ fractionText digits, rest)
  | rest => return (text, rest)

/-- The distance from universal time that makes up the rest of a text. A distance of zero is written
with a plus. -/
def offset? : List Char → Option (List Char)
  | [] => some []
  | ['Z'] | ['z'] => some ['Z']
  | sign :: rest =>
    if sign = '+' ∨ sign = '-' then do
      let (hours, rest) ← fixedDigits? 2 23 rest
      let (minutes, rest) ← fixedDigits? 2 59 (← expect? ':' rest)
      guard rest.isEmpty
      let shown := if hours = 0 ∧ minutes = 0 then '+' else sign
      return shown :: padded 2 hours ++ ':' :: padded 2 minutes
    else none

def moment? (characters : List Char) : Option Value :=
  match date? characters with
  | none => do
    let (text, rest) ← time? characters
    guard rest.isEmpty
    return .moment (String.ofList text)
  | some (date, []) => some (.moment (String.ofList date))
  | some (date, between :: rest) => do
    guard (between = 'T' ∨ between = 't' ∨ between = ' ')
    let (time, rest) ← time? rest
    let offset ← offset? rest
    return .moment (String.ofList (date ++ 'T' :: time ++ offset))

/-! ## Scalars of one run -/

def scalar? (characters : List Char) : Option Value :=
  if characters = ['t', 'r', 'u', 'e'] then some (.boolean true)
  else if characters = ['f', 'a', 'l', 's', 'e'] then some (.boolean false)
  else (moment? characters).or ((float? characters).or (integer? characters))

def isScalarCharacter (character : Char) : Bool :=
  character.isAlphanum || character == '+' || character == '-' || character == '_' ||
    character == '.' || character == ':'

/-- The run of a scalar at the front, and what follows. A blank belongs to it between a date and a
time. -/
def scalarRun (characters : List Char) : List Char × List Char :=
  let run := characters.takeWhile isScalarCharacter
  let rest := characters.dropWhile isScalarCharacter
  match rest with
  | ' ' :: digit :: more =>
    if digit.isDigit ∧ (date? run).any (fun found => found.2.isEmpty) then
      let time := (digit :: more).takeWhile isScalarCharacter
      (run ++ ' ' :: time, (digit :: more).dropWhile isScalarCharacter)
    else (run, rest)
  | _ => (run, rest)

end ChartDialogue.Toml
