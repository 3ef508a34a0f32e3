import ChartDialogue.Text.Quoted

/-! # Malformed grammars

What can be wrong with a schema document, found while it is walked or while a value is checked
against it.
-/

namespace ChartDialogue

inductive GrammarFault where
  /-- A reference that does not start with `#`. -/
  | nonLocalReference (reference : String)
  | unresolvableReference (reference : String)
  | unknownType (name : String) (fullPath : List String)
  /-- A `type` member that is neither a name nor a non-empty list of names. -/
  | unreadableType (fullPath : List String)
  | noType (fullPath : List String)
deriving DecidableEq, Repr

def GrammarFault.message : GrammarFault → String
  | .nonLocalReference reference => "non-local $ref " ++ reference
  | .unresolvableReference reference => "unresolvable $ref " ++ reference
  | .unknownType name fullPath =>
    "unknown type " ++ Text.quoted name ++ " at " ++ String.intercalate "." fullPath
  | .unreadableType fullPath => "unreadable type keyword at " ++ String.intercalate "." fullPath
  | .noType fullPath => "schema has no type at " ++ String.intercalate "." fullPath

end ChartDialogue
