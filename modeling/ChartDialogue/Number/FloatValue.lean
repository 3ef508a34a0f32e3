import ChartDialogue.Number.Digits
import ChartDialogue.Number.Shortest

/-! # Floating-point values

A double, or one of the results that are no double: the infinities, and an undefined value. Decimal
numbers are read by rounding once; the text of a value has no exponent, and a tie between two
shortest texts goes away from zero.
-/

namespace ChartDialogue

def Double.ofDecimal? (negative : Bool) (digits : Nat) (exponent : Int) : Option Double :=
  if digits = 0 then some (Double.zero.withSign negative)
  else if 400 < exponent then none
  else if ((digits.log2 / 3 + 1 : Nat) : Int) + exponent < -400 then
    some (Double.zero.withSign negative)
  else if 0 ≤ exponent then Double.ofQuotient? negative (digits * Nat.pow 10 exponent.toNat) 1
  else Double.ofQuotient? negative digits (Nat.pow 10 exponent.natAbs)

inductive FloatValue where
  | finite (number : Double)
  | infinite (negative : Bool)
  | undefined
deriving DecidableEq

namespace FloatValue

def ofDecimal (negative : Bool) (digits : Nat) (exponent : Int) : FloatValue :=
  match Double.ofDecimal? negative digits exponent with
  | some number => .finite number
  | none => .infinite negative

/-! ## Texts -/

def positional (decimal : Decimal) : List Char :=
  let digits := Nat.toDigits 10 decimal.digits
  if 0 ≤ decimal.scale then digits ++ List.replicate decimal.scale.toNat '0'
  else
    let places := decimal.scale.natAbs
    let padded := List.replicate (places + 1 - digits.length) '0' ++ digits
    padded.take (padded.length - places) ++ '.' :: padded.drop (padded.length - places)

/-- The shortest text of a value without an exponent; whole numbers have no point. -/
def text : FloatValue → String
  | .finite number =>
    let sign := if number.negative then ['-'] else []
    let digits := if number.isZero then ['0'] else positional (number.shortest .awayFromZero)
    String.ofList (sign ++ digits)
  | .infinite negative => if negative then "-inf" else "inf"
  | .undefined => "NaN"

def textWithPoint (value : FloatValue) : String :=
  match value with
  | .finite _ => if value.text.toList.contains '.' then value.text else value.text ++ ".0"
  | _ => value.text

/-! ## Conversions -/

def isZero : FloatValue → Bool
  | .finite number => number.isZero
  | _ => false

/-- The position of a value in numeric order, in which both zeros are one value and the undefined
value comes first. -/
def position : FloatValue → Int
  | .finite number => if number.negative then -number.magnitude else number.magnitude
  | .infinite negative => if negative then -Double.magnitudeBound else Double.magnitudeBound
  | .undefined => -Double.magnitudeBound - 1

/-- The nearest natural number below a limit; what is too large goes to the last one, and what is
negative or undefined to zero. -/
def toNatBelow (limit : Nat) : FloatValue → Nat
  | .finite number => min (limit - 1) number.roundToInt.toNat
  | .infinite negative => if negative then 0 else limit - 1
  | .undefined => 0

/-! ## Reading -/

def takeDigits (characters : List Char) : List Char × List Char :=
  (characters.takeWhile Char.isDigit, characters.dropWhile Char.isDigit)

/-- An exponent that makes up the rest of a text; none counts as zero. -/
def exponent? : List Char → Option Int
  | [] => some 0
  | letter :: rest =>
    if letter = 'e' ∨ letter = 'E' then
      let (negative, digits) := Digits.takeSign rest
      (Digits.natural? 10 digits).map (Digits.withSign negative)
    else none

def number? (negative : Bool) (characters : List Char) : Option FloatValue :=
  let (whole, rest) := takeDigits characters
  let (fraction, rest) := match rest with
    | '.' :: rest => takeDigits rest
    | rest => ([], rest)
  if whole.isEmpty ∧ fraction.isEmpty then none
  else (exponent? rest).map fun exponent =>
    ofDecimal negative (Digits.total 10 (whole ++ fraction)) (exponent - fraction.length)

def ofText? (text : String) : Option FloatValue :=
  let (negative, rest) := Digits.takeSign text.toList
  match String.ofList (rest.map Char.toLower) with
  | "inf" | "infinity" => some (.infinite negative)
  | "nan" => some .undefined
  | _ => number? negative rest

example : (ofText? "-1.50e1").map text = some "-15" := by decide +kernel
example : (ofText? "1e-3").map textWithPoint = some "0.001" := by decide +kernel
example : (ofText? ".").isNone := by decide +kernel
example : (ofText? "1.00000762939453125").map text = some "1.0000076293945313" := by
  decide +kernel

end FloatValue

end ChartDialogue
