import ChartDialogue.Number.FloatValue

/-! # TOML values -/

namespace ChartDialogue.Toml

inductive Value where
  | string (text : String)
  | integer (value : Int)
  | float (value : FloatValue)
  | boolean (value : Bool)
  | moment (text : String)
  | array (elements : List Value)
  | table (entries : List (String × Value))

end ChartDialogue.Toml
