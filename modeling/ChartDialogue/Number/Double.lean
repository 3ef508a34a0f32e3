/-! # Double precision numbers

A finite double is a sign and a magnitude. The magnitude is the exponent field and the fraction
field read as one number, so it counts the representable values upwards from zero and its order
is the numeric order. Every value is a whole multiple of the least positive one, which keeps
rounding and arithmetic inside the natural numbers.
-/

namespace ChartDialogue

def Double.magnitudeBound : Nat := 0x7FF0000000000000

structure Double where
  negative : Bool
  magnitude : Nat
  finite : magnitude < Double.magnitudeBound

namespace Double

theorem ext_fields {left right : Double} (signs : left.negative = right.negative)
    (magnitudes : left.magnitude = right.magnitude) : left = right := by
  cases left; cases right; cases signs; cases magnitudes; rfl

instance : DecidableEq Double := fun left right =>
  if equal : left.negative = right.negative ∧ left.magnitude = right.magnitude then
    isTrue (ext_fields equal.1 equal.2)
  else
    isFalse fun same => equal (by cases same; exact ⟨rfl, rfl⟩)

def zero : Double := ⟨false, 0, by decide⟩

instance : Inhabited Double := ⟨zero⟩

def withSign (negative : Bool) (number : Double) : Double :=
  { number with negative := negative }

def isZero (number : Double) : Bool := number.magnitude == 0

/-- Numeric equality: the two zeros are one number. -/
def sameNumber (left right : Double) : Bool :=
  left.magnitude == right.magnitude && (left.negative == right.negative || left.isZero)

theorem sameNumber_self (number : Double) : number.sameNumber number = true := by
  simp [sameNumber]

/-! ## Values as multiples of the least positive double -/

def fractionCount : Nat := 0x10000000000000

/-- One, in units of the least positive double. -/
def one : Nat := Nat.pow 2 1074

/-- The value of a magnitude, in units of the least positive double. Below the first full binade
the magnitude is the value; each further exponent doubles the step. -/
def unitsOf (magnitude : Nat) : Nat :=
  match magnitude / fractionCount with
  | 0 => magnitude
  | exponent + 1 => (fractionCount + magnitude % fractionCount) * Nat.pow 2 exponent

def units (number : Double) : Nat := unitsOf number.magnitude

/-- The nearest natural number to a quotient; an exact half goes to the even neighbour. -/
def roundQuotient (numerator denominator : Nat) : Nat :=
  let quotient := numerator / denominator
  let twiceRemainder := 2 * (numerator % denominator)
  if twiceRemainder < denominator then quotient
  else if denominator < twiceRemainder then quotient + 1
  else if quotient % 2 = 0 then quotient else quotient + 1

example : roundQuotient 5 2 = 2 ∧ roundQuotient 7 2 = 4 ∧ roundQuotient 8 3 = 3 := by decide

/-- The magnitude of the double nearest to a quotient given in units of the least positive
double. A carry out of the fraction moves on to the next exponent by itself. -/
def nearestMagnitude (numerator denominator : Nat) : Nat :=
  let shift := Nat.log2 (numerator / denominator) - 52
  shift * fractionCount + roundQuotient numerator (denominator * Nat.pow 2 shift)

def ofQuotient? (negative : Bool) (numerator denominator : Nat) : Option Double :=
  let magnitude := nearestMagnitude (numerator * one) denominator
  if finite : magnitude < magnitudeBound then some ⟨negative, magnitude, finite⟩ else none

def ofNat? (number : Nat) : Option Double := ofQuotient? false number 1

def mul? (left right : Double) : Option Double :=
  ofQuotient? (left.negative != right.negative) (left.units * right.units) (one * one)

def div? (left right : Double) : Option Double :=
  if right.isZero then none
  else ofQuotient? (left.negative != right.negative) left.units right.units

def ofTenths (tenths : Nat) : Double := (ofQuotient? false tenths 10).getD zero

/-- The double nearest to an integer; too large an integer gives zero. -/
def ofInt (number : Int) : Double :=
  (ofQuotient? (number < 0) number.natAbs 1).getD zero

/-- The whole number nearest to a double; a half goes away from zero. -/
def roundToInt (number : Double) : Int :=
  let whole := (2 * number.units + one) / (2 * one)
  if number.negative then - (whole : Int) else whole

example : (ofQuotient? false 1 1).map (·.magnitude) = some 0x3FF0000000000000 := by decide +kernel
example : (ofQuotient? false 1 10).map (·.magnitude) = some 0x3FB999999999999A := by decide +kernel
example : (ofQuotient? false 1 (Nat.pow 2 1075)).map (·.magnitude) = some 0 := by decide +kernel

end Double

end ChartDialogue
