import ChartDialogue.Number.Double

/-! # Shortest decimal text of a double

The digits are the fewest that read back as the same double, and among those the nearest to it.
Where two are equally near, the writer of the text says which one to take.
A decimal grid with too few digits has no point between the two midpoints around the value; the
first grid that has one is used.
-/

namespace ChartDialogue

/-- A positive decimal number: `digits` counts steps of `10 ^ scale`. -/
structure Decimal where
  digits : Nat
  scale : Int
deriving DecidableEq, Repr

/-- Which of two equally near decimals is taken: the one with an even last digit, or the one farther
from zero. -/
inductive TieRule where
  | toEven
  | awayFromZero
deriving DecidableEq, Repr

namespace Double

def tenPower (exponent : Int) : Nat × Nat :=
  if exponent < 0 then (1, Nat.pow 10 exponent.natAbs) else (Nat.pow 10 exponent.natAbs, 1)

/-- The exponent of the leading decimal digit of a positive quotient: the largest exponent
whose power of ten does not exceed it. An estimate from the binary length is at most one off. -/
def leadingExponent (numerator denominator : Nat) : Int :=
  let bits : Int := Nat.log2 numerator - Nat.log2 denominator
  let estimate := (bits * 30103).fdiv 100000 - 1
  let reaches (exponent : Int) : Bool :=
    let (times, parts) := tenPower exponent
    times * denominator ≤ numerator * parts
  if reaches (estimate + 2) then estimate + 2
  else if reaches (estimate + 1) then estimate + 1
  else if reaches estimate then estimate
  else estimate - 1

/-- The points of the grid `10 ^ scale` next to the value that read back as it. All quantities
are doubled multiples of the least positive double; the ends of the interval belong to it
exactly when the magnitude is even. -/
def gridPoint? (tie : TieRule) (magnitude : Nat) (scale : Int) : Option Nat :=
  let value := 2 * unitsOf magnitude
  let low := unitsOf (magnitude - 1) + unitsOf magnitude
  let high := unitsOf magnitude + unitsOf (magnitude + 1)
  let (times, parts) := tenPower scale
  let step := 2 * one * times
  let below := value * parts / step
  let inside (point : Nat) : Bool :=
    let scaled := point * step
    if magnitude % 2 = 0 then low * parts ≤ scaled && scaled ≤ high * parts
    else low * parts < scaled && scaled < high * parts
  match inside below, inside (below + 1) with
  | false, false => none
  | true, false => some below
  | false, true => some (below + 1)
  | true, true =>
    let toBelow := value * parts - below * step
    let toAbove := (below + 1) * step - value * parts
    if toBelow < toAbove then some below
    else if toAbove < toBelow then some (below + 1)
    else if tie = .toEven ∧ below % 2 = 0 then some below
    else some (below + 1)

def Decimal.strip : (fuel : Nat) → Decimal → Decimal
  | 0, number => number
  | fuel + 1, number =>
    if number.digits % 10 = 0 ∧ number.digits ≠ 0 then
      Decimal.strip fuel ⟨number.digits / 10, number.scale + 1⟩
    else number

def digitLimit : Nat := 17

def findDecimal? (tie : TieRule) (magnitude : Nat) (leading : Int) : Option Decimal :=
  (List.range digitLimit).findSome? fun (dropped : Nat) =>
    let scale := leading - (dropped : Int)
    (gridPoint? tie magnitude scale).bind fun digits =>
      if digits = 0 then none else some (Decimal.mk digits scale)

def shortest (tie : TieRule) (number : Double) : Decimal :=
  ((findDecimal? tie number.magnitude (leadingExponent number.units one)).map
    (Decimal.strip digitLimit)).getD ⟨0, 0⟩

/-! ## Layout

Numbers from `10 ^ -5` up to, but not including, `10 ^ 16` are written positionally with at least
one digit after the point; others have an exponent with an explicit sign. A tie goes to the even
digit. -/

def leastPositional : Int := -5
def firstExponential : Int := 16

def layout (decimal : Decimal) : List Char :=
  let digits := Nat.toDigits 10 decimal.digits
  let exponent := decimal.scale + digits.length - 1
  if exponent < leastPositional ∨ firstExponential ≤ exponent then
    let fraction := match digits with
      | first :: second :: rest => first :: '.' :: second :: rest
      | short => short
    let sign := if exponent < 0 then '-' else '+'
    fraction ++ 'e' :: sign :: Nat.toDigits 10 exponent.natAbs
  else if 0 ≤ decimal.scale then
    digits ++ List.replicate decimal.scale.natAbs '0' ++ ['.', '0']
  else if 0 ≤ exponent then
    let whole := exponent.natAbs + 1
    digits.take whole ++ '.' :: digits.drop whole
  else
    '0' :: '.' :: List.replicate (exponent.natAbs - 1) '0' ++ digits

def render (number : Double) : List Char :=
  let sign := if number.negative then ['-'] else []
  if number.isZero then sign ++ ['0', '.', '0'] else sign ++ layout (number.shortest .toEven)

end Double

end ChartDialogue
