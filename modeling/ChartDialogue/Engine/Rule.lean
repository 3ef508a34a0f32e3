import ChartDialogue.Grammar.Node
import ChartDialogue.Random.Draw
import ChartDialogue.Value.TypedValue

/-! # Rules for values

A rule governs some slots. It can judge a value for such a slot or leave the judgement to the next
rule, and it proposes values for the slot when it is empty.
-/

namespace ChartDialogue

/-- A node together with one of its declared types. -/
structure Slot where
  node : SchemaNode
  declared : DeclaredType

namespace Slot

def ofNodes (nodes : List SchemaNode) : List Slot :=
  nodes.flatMap fun node => node.types.map fun declared => ⟨node, declared⟩

def isString (slot : Slot) : Bool := slot.declared == .string

end Slot

inductive Rule where
  | color
  | field
  | font
  | enumeration
  | boolean
  | number
  | generic
deriving DecidableEq, Repr

namespace Rule

def defaults : List Rule := [color, field, font, enumeration, boolean, number, generic]

def name : Rule → String
  | color => "color"
  | field => "field"
  | font => "font"
  | enumeration => "enum"
  | boolean => "boolean"
  | number => "number"
  | generic => "generic"

def ofName? (name : String) : Option Rule := defaults.find? fun rule => rule.name == name

/-! ## Names of properties -/

def endsWith (text ending : String) : Bool := ending.toList.isSuffixOf text.toList

def isColorName (name : String) : Bool :=
  endsWith name "color" || endsWith name "Color" ||
    name == "fill" || name == "stroke" || name == "background"

def isFontName (name : String) : Bool := endsWith name "font" || endsWith name "Font"

/-! ## What a rule does -/

def applies (slot : Slot) : Rule → Bool
  | color => slot.isString && isColorName slot.node.lastSegment
  | field => slot.isString && slot.node.lastSegment == "field"
  | font => slot.isString && isFontName slot.node.lastSegment
  | enumeration => slot.isString && slot.node.isEnumeration
  | boolean => slot.declared == .boolean
  | number => slot.declared == .number
  | generic => true

/-- The judgement of a rule on a value, if it gives one. Enumerations accept their literals
whatever the tag; the generic rule accepts values that are tagged with the declared type. -/
def judge (slot : Slot) (value : TypedValue) : Rule → Option Bool
  | color => some (value.tag == .color)
  | field => some (value.tag == .field)
  | enumeration => slot.node.enumeration.map fun literals => literals.contains value.text
  | generic => if value.tag.denotes slot.declared then some true else none
  | font | boolean | number => none

def colors : List String := ["red", "blue", "green"]

def fonts : List String := ["times", "monaco", "cursive"]

def placeholder : String := "XXYYZZ"

def tagged (tag : Tag) (texts : List String) : List TypedValue :=
  texts.map fun text => ⟨.string text, tag⟩

/-- A whole number below fifty and a number of tenths below one. -/
def numberPair (whole tenths : Nat) : List TypedValue :=
  [⟨.ofNat whole, .number⟩, ⟨.number (.double (Double.ofTenths tenths)), .number⟩]

def propose {σ : Type} [WordSource σ] (slot : Slot) : Rule → Draw σ (List TypedValue)
  | color => pure (tagged .color colors)
  | field => pure []
  | font => pure (tagged .string fonts)
  | enumeration => pure (tagged .enumeration ((slot.node.enumeration.map StringSet.toList).getD []))
  | boolean => pure [⟨.bool true, .boolean⟩, ⟨.bool false, .boolean⟩]
  | number => fun source =>
    let whole := Draw.below .wide 50 source
    let tenths := Draw.below .wide 9 whole.2
    (numberPair whole.1 (tenths.1 + 1), tenths.2)
  | generic => pure (if slot.isString then tagged .string [placeholder] else [])

end Rule

end ChartDialogue
