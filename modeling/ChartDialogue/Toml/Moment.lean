import ChartDialogue.Toml.Scalar

/-! # Marked tables

A moment can also be given as a table that is marked by its first key. Such a table stands for the
moment whose text is the value of that key, and what else it holds does not count.
-/

namespace ChartDialogue.Toml

/-- The first key of a table that stands for a moment. -/
def momentMark : String := "$__toml_private_datetime"

def markedValue? : Value → Option Value
  | .string text => moment? text.toList
  | _ => none

mutual
/-- A value in which every marked table is the moment it stands for. A mark whose value is no moment
makes it no value at all. -/
def Value.settle? : Value → Option Value
  | .array elements => .array <$> settleElements? elements
  | .table [] => some (.table [])
  | .table ((key, value) :: rest) =>
    if key = momentMark then markedValue? value
    else do
      let value ← value.settle?
      return .table ((key, value) :: (← settleEntries? rest))
  | scalar => some scalar

def settleElements? : List Value → Option (List Value)
  | [] => some []
  | value :: rest => do
    let value ← value.settle?
    return value :: (← settleElements? rest)

def settleEntries? : List (String × Value) → Option (List (String × Value))
  | [] => some []
  | (key, value) :: rest => do
    let value ← value.settle?
    return (key, value) :: (← settleEntries? rest)
end

end ChartDialogue.Toml
