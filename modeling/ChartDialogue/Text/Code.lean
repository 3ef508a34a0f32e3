/-! # Codes of characters

Escapes give characters by their codes. A code past the last character, or one of the halves that
stand for a character only in pairs, is no character's.
-/

namespace ChartDialogue.Text

def ofCode? (code : Nat) : Option Char :=
  if code.isValidChar then some (Char.ofNat code) else none

def ofHalves (first second : Nat) : Char :=
  Char.ofNat (0x10000 + (first - 0xD800) * 0x400 + (second - 0xDC00))

example : ofCode? 0x41 = some 'A' ∧ ofCode? 0xD800 = none ∧ ofCode? 0x110000 = none := by decide
example : ofHalves 0xD83D 0xDE00 = '😀' := by decide

end ChartDialogue.Text
