import ChartDialogue.Text.Invisible

/-! # Quoted text

A text between double quotes in which quotes, backslashes and characters without a shape of their
own are escaped.
-/

namespace ChartDialogue.Text

def hexadecimal (number : Nat) : List Char := Nat.toDigits 16 number

def escapeCharacter (mark character : Char) : List Char :=
  if character = '\x00' then ['\\', '0']
  else if character = '\t' then ['\\', 't']
  else if character = '\r' then ['\\', 'r']
  else if character = '\n' then ['\\', 'n']
  else if character = mark ∨ character = '\\' then ['\\', character]
  else if isInvisible character then
    ['\\', 'u', '\x7b'] ++ hexadecimal character.toNat ++ ['\x7d']
  else [character]

def quoted (text : String) : String :=
  String.ofList ('"' :: text.toList.flatMap (escapeCharacter '"') ++ ['"'])

def quotedCharacter (character : Char) : String :=
  String.ofList ('\'' :: escapeCharacter '\'' character ++ ['\''])

example : quoted "a\"b'" = "\"a\\\"b'\"" := by decide +kernel
example : quotedCharacter '\'' = "'\\''" ∧ quotedCharacter '"' = "'\"'" := by decide +kernel
example : quoted "e\u0301" = "\"e\\u\x7b301\x7d\"" := by decide +kernel

end ChartDialogue.Text
