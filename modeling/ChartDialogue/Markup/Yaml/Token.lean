import ChartDialogue.Markup.Yaml.Scalar
import ChartDialogue.Markup.Yaml.Tag

/-! # Tokens of YAML texts

Marks and scalars, and where blocks begin and end, which indentation tells.
-/

namespace ChartDialogue.Markup.Yaml

inductive Collection where
  | list
  | table
deriving DecidableEq

inductive Token where
  | directive (directive : Directive)
  | documentStart
  | documentEnd
  | textEnd
  | openBlock (collection : Collection)
  | closeBlock
  | openFlow (collection : Collection)
  | closeFlow (collection : Collection)
  | dash
  | comma
  | key
  | value
  | anchor (name : String)
  | reference (name : String)
  | tag (handle kind : String)
  | scalar (plain : Bool) (text : String)
  | broken (fault : Fault)

structure PlacedToken where
  token : Token
  place : Place

def anchorName (start : Place) : Except Fault (String × Place) :=
  let name := start.next.rest.takeWhile fun character =>
    ¬ (isBlank character || isBreak character || isFlowMark character || character == '\uFEFF')
  if name.isEmpty then
    fail start ("while scanning an anchor or alias, did not find expected alphabetic or numeric " ++
      "character")
  else .ok (String.ofList name, start.next.skip name.length)

end ChartDialogue.Markup.Yaml
