import ChartDialogue.Chart.Context
import ChartDialogue.Chart.Derivation
import ChartDialogue.Chart.Template
import ChartDialogue.Random.Draw

/-! # Suggesting first charts

A first chart takes a template and binds every channel to a field of the data table: one that is
measured as the template wants, or any field if there is none of that kind.
-/

namespace ChartDialogue.Suggest

variable {σ : Type} [WordSource σ]

def limit : Nat := 1000

structure Binding where
  channel : String
  field : DataField
deriving DecidableEq

/-- The fields a channel may show: those that are measured as wanted, or all. -/
def candidates (fields : List DataField) (wanted : String) : List DataField :=
  let fitting := fields.filter fun field => field.measurement.name == wanted
  if fitting.isEmpty then fields else fitting

def bind (fields : List DataField) : List (String × String) → Draw σ (List Binding)
  | [] => pure []
  | (channel, wanted) :: rest => fun source =>
    let chosen := Draw.choose (candidates fields wanted) source
    let others := bind fields rest chosen.2
    (chosen.1.toList.map (⟨channel, ·⟩) ++ others.1, others.2)

def Binding.encode (binding : Binding) : Json :=
  Json.ofMembers [
    ("field", .string binding.field.name),
    ("type", .string binding.field.measurement.name)]

def Binding.formula (binding : Binding) : String :=
  " (" ++ binding.channel ++ " " ++ binding.field.name ++ ")"

def chart (mark : String) (bindings : List Binding) : Derivation :=
  .unscored
    ("(initial " ++ mark ++ String.join (bindings.map Binding.formula) ++ ")")
    (Json.ofMembers [
      ("mark", .string mark),
      ("encoding", .ofMembers (bindings.map fun binding => (binding.channel, binding.encode)))])

/-- One of the templates, or a fallback with one of the marks if there are none. -/
def chooseTemplate (templates : List Template) : Draw σ Template := fun source =>
  match Draw.choose templates source with
  | (some template, source) => (template, source)
  | (none, source) =>
    let mark := Draw.choose Template.marks source
    (Template.fallback (mark.1.getD "point"), mark.2)

def drawChart (templates : List Template) (fields : List DataField) : Draw σ Derivation :=
  fun source =>
    let template := chooseTemplate templates source
    let bindings := bind fields template.1.encoding.entries template.2
    (chart template.1.mark bindings.1, bindings.2)

def drawCharts (templates : List Template) (fields : List DataField) :
    (count : Nat) → Draw σ (List Derivation)
  | 0 => pure []
  | count + 1 => fun source =>
    let first := drawChart templates fields source
    let others := drawCharts templates fields count first.2
    (first.1 :: others.1, others.2)

def initial (templates : List Template) (context : ChartContext) (amount : Nat) :
    Draw σ (List Derivation) :=
  match context.fields.values with
  | [] => pure []
  | fields => drawCharts templates fields (min amount limit)

end ChartDialogue.Suggest
