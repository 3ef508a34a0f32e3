import ChartDialogue.Number.Digits

/-! # Words

The range of 64-bit words, and the words that digits denote.
-/

namespace ChartDialogue.Word

def limit : Nat := 0x10000000000000000

def signedLimit : Int := 0x8000000000000000

def fitsSigned (value : Int) : Bool := decide (-signedLimit ≤ value ∧ value < signedLimit)

def ofSigned? (base : Nat) (characters : List Char) : Option Int :=
  let (negative, digits) := Digits.takeSign characters
  ((Digits.natural? base digits).map (Digits.withSign negative)).filter fitsSigned

def ofDigits? (digits : List Char) : Option Nat := (Digits.natural? 10 digits).filter (· < limit)

def ofText? (text : String) : Option Nat :=
  match text.toList with
  | '+' :: digits => ofDigits? digits
  | digits => ofDigits? digits

example : ofText? "+007" = some 7 ∧ ofText? "+" = none ∧ ofText? "-1" = none := by decide +kernel
example : ofText? "18446744073709551615" = some 18446744073709551615 := by decide +kernel
example : ofText? "18446744073709551616" = none := by decide +kernel
example : ofSigned? 16 "-ff".toList = some (-255) := by decide +kernel

end ChartDialogue.Word
