import ChartDialogue.Chart.Response
import ChartDialogue.Files.Access
import ChartDialogue.Json.Error

/-! # Commands that fail, and parsers

A parser finds derivations for what was said in a context. It comes from outside; it may fail.
-/

namespace ChartDialogue

inductive CommandFault where
  | payload (command : String) (fault : ShapeFault)
  | invalid (value : Json)
  | parser (reason : String)
  | expressionsUnsupported
  | line (error : JsonError)
  | log (fault : FileFault)

def CommandFault.message : CommandFault → String
  | .payload command fault => "Malformed payload for command " ++ command ++ ": " ++ fault.message
  | .invalid value => "Invalid command: " ++ value.compact
  | .parser reason => "Parser error: " ++ reason
  | .expressionsUnsupported => "Parser expressions are not supported by this parser"
  | .line error => "JSON error: " ++ error.message
  | .log fault => "IO error: " ++ fault.message

structure Parser where
  /-- An example with its derivations, the best first. When learning, the example has a target. -/
  parse : Example → (learning : Bool) → Except CommandFault Example
  evaluate : (session expression : String) → Except CommandFault Response :=
    fun _ _ => .error .expressionsUnsupported

namespace Parser

def silent : Parser := { parse := fun asked _ => .ok { asked with derivations := [] } }

/-- Whether a parser leaves everything about an example alone but its derivations. -/
def OnlyDerives (parser : Parser) : Prop :=
  ∀ asked learning parsed, parser.parse asked learning = .ok parsed →
    parsed = { asked with derivations := parsed.derivations }

theorem onlyDerives_silent : silent.OnlyDerives := by
  intro asked learning parsed result
  cases result
  rfl

end Parser

end ChartDialogue
