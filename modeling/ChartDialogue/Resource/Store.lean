import ChartDialogue.Chart.TemplateReader
import ChartDialogue.Files.Access
import ChartDialogue.Grammar.Fault
import ChartDialogue.Session.QueryLog
import ChartDialogue.Settings.Basic

/-! # The store

Colors, templates and accepted examples, each loaded from its file when one is named.
-/

namespace ChartDialogue

inductive ResourceFault where
  | file (fault : FileFault)
  | json (error : JsonError)
  | notConfigured

def ResourceFault.message : ResourceFault → String
  | .file fault => fault.message
  | .json error => error.message
  | .notConfigured => "no schema file configured"

inductive LoadFault where
  | resource (name : String) (fault : ResourceFault)
  | grammar (fault : GrammarFault)
  | file (fault : FileFault)

def LoadFault.message : LoadFault → String
  | .resource name fault => "Failed to load resource " ++ name ++ ": " ++ fault.message
  | .grammar fault => "Malformed schema: " ++ fault.message
  | .file fault => "IO error: " ++ fault.message

def LoadFault.during {m : Type → Type} [Monad m] {α : Type} (cause : FileFault → LoadFault)
    (action : m (Except FileFault α)) : ExceptT LoadFault m α :=
  ExceptT.mk (Except.mapError cause <$> action)

structure Store where
  colors : StringSet := StringSet.empty
  templates : List Template := []
  examples : List (Members none) := []

namespace Store

variable {m : Type → Type} [Monad m] [FileAccess m]

def isColor (store : Store) (name : String) : Bool := store.colors.contains name

/-- The color names in the text of a color file: the keys of its object. -/
def parseColors (text : String) : Except JsonError StringSet :=
  (fun members => StringSet.ofList (members.toList.map (·.1))) <$> readWhole readObject text

def loadFile {α : Type} (parse : String → Except JsonError α) (name : String) :
    ExceptT LoadFault m α := do
  let text ← LoadFault.during (fun fault => .resource name (.file fault)) (FileAccess.readText name)
  ExceptT.mk (pure ((parse text).mapError fun error => .resource name (.json error)))

def loadNamed {α : Type} (parse : String → Except JsonError α) (unnamed : α) :
    Option String → ExceptT LoadFault m α
  | none => return unnamed
  | some name => loadFile parse name

def load (settings : ResourceSettings) : ExceptT LoadFault m Store := do
  let colors ← loadNamed parseColors StringSet.empty settings.colorFile
  let templates ← loadNamed Template.parseList [] settings.templateFile
  let examples ← loadNamed QueryLog.accepted [] settings.exampleFile
  return { colors, templates, examples }

end Store

end ChartDialogue
