import ChartDialogue.Chart.Example

/-! # Sessions

What is kept between the commands of one client.
-/

namespace ChartDialogue

structure Session where
  id : String
  /-- The context of the latest `q` or `random`. -/
  context : ChartContext := .empty
  /-- How many utterances were parsed. -/
  queryCount : Nat := 0
  lastUtterance : Option String := none
deriving DecidableEq

namespace Session

def console : String := "stdin"

/-- Note that something was said; an empty utterance counts but is not kept. -/
def hear (session : Session) (utterance : String) : Session :=
  { session with
    queryCount := session.queryCount + 1
    lastUtterance := if utterance.isEmpty then session.lastUtterance else some utterance }

def encode (session : Session) : Json :=
  Json.ofMembers [
    ("id", .string session.id),
    ("context", session.context.encode),
    ("query_count", .ofNat session.queryCount),
    ("last_utterance", match session.lastUtterance with
      | none => .null
      | some utterance => .string utterance)]

end Session

abbrev SessionTable := StringMap Session

def SessionTable.session (sessions : SessionTable) (id : String) : Session :=
  (sessions.find? id).getD { id }

end ChartDialogue
