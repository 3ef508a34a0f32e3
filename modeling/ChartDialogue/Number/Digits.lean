/-! # Digits

The values of digits, in bases up to sixteen, and the numbers that digits and signs denote.
-/

namespace ChartDialogue.Digits

/-- The value of a digit. Those past nine are letters of either case. -/
def value? (character : Char) : Option Nat :=
  if '0' ≤ character ∧ character ≤ '9' then some (character.toNat - '0'.toNat)
  else if 'a' ≤ character ∧ character ≤ 'f' then some (character.toNat - 'a'.toNat + 10)
  else if 'A' ≤ character ∧ character ≤ 'F' then some (character.toNat - 'A'.toNat + 10)
  else none

def isDigit (base : Nat) (character : Char) : Bool := (value? character).any (· < base)

def total (base : Nat) (digits : List Char) : Nat :=
  digits.foldl (fun number digit => number * base + (value? digit).getD 0) 0

def natural? (base : Nat) (characters : List Char) : Option Nat :=
  if characters.isEmpty ∨ ¬ characters.all (isDigit base) then none
  else some (total base characters)

def takeSign : List Char → Bool × List Char
  | '-' :: rest => (true, rest)
  | '+' :: rest => (false, rest)
  | characters => (false, characters)

def withSign (negative : Bool) (magnitude : Nat) : Int :=
  if negative then -magnitude else magnitude

example : natural? 16 "1f".toList = some 31 ∧ natural? 10 "1f".toList = none := by
  decide +kernel
example : natural? 8 [] = none := by decide

end ChartDialogue.Digits
