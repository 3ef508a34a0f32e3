import ChartDialogue.Number.FloatValue

/-! # Values of data languages

What the languages for data files have in common.
-/

namespace ChartDialogue.Markup

inductive Value where
  | null
  | boolean (value : Bool)
  | integer (value : Int)
  | float (value : FloatValue)
  | text (text : String)
  | list (elements : List Value)
  /-- The entries of a table in the order they are given. Of a repeated key the last one counts. -/
  | table (entries : List (String × Value))

namespace Value

def putEntry (key : String) (value : Value) : List (String × Value) → List (String × Value)
  | [] => [(key, value)]
  | (other, old) :: rest =>
    if key = other then (key, value) :: rest else (other, old) :: putEntry key value rest

def ofEntries (entries : List (String × Value)) : Value :=
  .table (entries.foldl (fun table (key, value) => putEntry key value table) [])

end Value

end ChartDialogue.Markup
