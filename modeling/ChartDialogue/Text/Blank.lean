/-! # Blank characters

The characters with the White_Space property, trimming by them, and the lines of a text.
-/

namespace ChartDialogue.Text

/-- The code points with the White_Space property. -/
def blankRanges : List (Nat × Nat) :=
  [(0x09, 0x0D), (0x20, 0x20), (0x85, 0x85), (0xA0, 0xA0), (0x1680, 0x1680), (0x2000, 0x200A),
   (0x2028, 0x2029), (0x202F, 0x202F), (0x205F, 0x205F), (0x3000, 0x3000)]

def isBlank (character : Char) : Bool :=
  blankRanges.any fun (first, last) => first ≤ character.toNat && character.toNat ≤ last

def trimCharacters (characters : List Char) : List Char :=
  ((characters.dropWhile isBlank).reverse.dropWhile isBlank).reverse

def trim (text : String) : String := String.ofList (trimCharacters text.toList)

/-! ## Lines -/

/-- The characters of a finished line from the same characters backwards. A carriage return right
before the line feed belongs to the line break. -/
def finishLine : List Char → List Char
  | '\r' :: rest => rest.reverse
  | pending => pending.reverse

/-- The lines of a text; `pending` holds the characters of the unfinished line backwards. What
follows the last line feed is a line only if it is not empty, and it is kept as it is. -/
def splitLines (pending : List Char) : List Char → List (List Char)
  | [] => if pending.isEmpty then [] else [pending.reverse]
  | '\n' :: rest => finishLine pending :: splitLines [] rest
  | character :: rest => splitLines (character :: pending) rest

def lines (text : String) : List String := (splitLines [] text.toList).map String.ofList

example : lines "a\r\nb\n\nc\r" = ["a", "b", "", "c\r"] := by decide +kernel

end ChartDialogue.Text
