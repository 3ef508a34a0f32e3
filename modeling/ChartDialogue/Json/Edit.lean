import ChartDialogue.Json.Basic

/-! # Writing inside a value

A value is written at a path of object members. Whatever is no object on the way becomes one.
-/

namespace ChartDialogue.Json

def read? (target : Json) : (path : List String) → Option Json
  | [] => some target
  | key :: rest => (target.member? key).bind fun inner => inner.read? rest

/-- The members of an object; other values have none. -/
def membersOrNone : Json → Members none
  | .object members => members
  | _ => .nil

def write (target : Json) (path : List String) (value : Json) : Json :=
  match path with
  | [] => value
  | key :: rest =>
    let members := target.membersOrNone
    let inner := (members.find? key).getD .null
    .object (members.insert key (above_none key) (inner.write rest value))

example : ((ofMembers [("x", .string "broken")]).write ["x", "field"] (.string "a")).read?
    ["x", "field"] = some (.string "a") := by decide +kernel

end ChartDialogue.Json
