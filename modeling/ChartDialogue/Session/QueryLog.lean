import ChartDialogue.Json.Printer
import ChartDialogue.Json.TypedReader
import ChartDialogue.Text.Blank

/-! # The query log

A log has one line for every command received: an object with the command, the session that sent
it, and the time. The entries of accepted commands are read back as examples.
-/

namespace ChartDialogue.QueryLog

structure Entry where
  command : Json
  session : String
  time : String
deriving DecidableEq

/-! ## Writing -/

def Entry.encode (entry : Entry) : Json :=
  Json.ofMembers [
    ("q", entry.command),
    ("sessionId", .string entry.session),
    ("time", .string entry.time)]

def Entry.line (entry : Entry) : String := entry.encode.compact ++ "\n"

def text (entries : List Entry) : String := String.join (entries.map Entry.line)

/-! ## Reading -/

def parseLine (line : String) : Except JsonError (Members none) := readWhole readObject line

/-- The name of the command in a log line: the first element of its `q` member, if that is a
string. -/
def commandName? (members : Members none) : Option String :=
  (((members.find? "q").bind Json.asArray?).bind List.head?).bind Json.asString?

def isAccepted (members : Members none) : Bool := commandName? members == some "accept"

/-- The objects on the lines of a log; blank lines do not count. -/
def parseLines (text : String) : Except JsonError (List (Members none)) :=
  ((Text.lines text).filter fun line => ¬ (Text.trim line).isEmpty).mapM parseLine

def accepted (text : String) : Except JsonError (List (Members none)) :=
  (fun entries => entries.filter isAccepted) <$> parseLines text

end ChartDialogue.QueryLog
