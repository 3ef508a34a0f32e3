import ChartDialogue.Proofs.Resource.Loading
import ChartDialogue.Proofs.Session.QueryLog
import ChartDialogue.Proofs.Session.Turns

/-! # The log of a service

A service that could open its log can add to it for ever: after any lines, the log holds exactly the
commands that arrived. It can be loaded as examples unless one of them nests as deep as the reader
goes.
-/

namespace ChartDialogue

theorem QueryLog.text_append (first second : List Entry) :
    text (first ++ second) = text first ++ text second := by
  apply String.toList_injective
  simp [toList_text]

def Json.nested : (height : Nat) → Json
  | 0 => .null
  | height + 1 => .array [nested height]

theorem Json.height_nested : (height : Nat) → (nested height).height = height
  | 0 => rfl
  | height + 1 => by
    have inner := height_nested height
    simp [nested, Json.height, heightOfElements, inner]

theorem Json.whole_nested : (height : Nat) → (nested height).Whole
  | 0 => fun number inside => by cases inside
  | height + 1 => Json.whole_array (List.forall_mem_singleton.mpr (whole_nested height))

theorem Router.readLine_compact_array (router : Router) {id : String}
    (client : id ≠ Session.console) (elements : List Json)
    (low : (Json.array elements).height ≤ depthLimit) :
    ∃ found, router.readLine id (Json.array elements).compact = .ok (.command found) ∧
      ((Json.array elements).Whole → found = .array elements) := by
  rcases render_array_eq_append elements with ⟨inner, framed⟩
  have isFramed : Text.IsFramed (Json.array elements).render :=
    ⟨_, inner, _, framed, by decide, by decide⟩
  rcases parse_compact (.array elements) low with ⟨found, read, same⟩
  refine ⟨found, ?_, same⟩
  have noExpression : (Json.array elements).compact.toList.head? ≠ some '(' := by
    simp [Json.compact, framed]
  have trimmed : Text.trim (Json.array elements).compact = (Json.array elements).compact :=
    Text.trim_of_isFramed isFramed
  simp [readLine, trimmed, noExpression, client, read]

namespace Service

variable {σ : Type} [WordSource σ]

structure Arrival where
  time : String
  session : String
  line : String

def processAll (service : Service) : (arrivals : List Arrival) → (state : ServiceState σ) →
    StateM FileTree (ServiceState σ)
  | [], state => pure state
  | arrival :: rest, state => do
    let (_, state) ← service.process arrival.time state arrival.session arrival.line
    service.processAll rest state

/-- The log entry of a line. Lines that are no commands have none. -/
def entryFor? (service : Service) (arrival : Arrival) : Option QueryLog.Entry :=
  match service.router.readLine arrival.session arrival.line with
  | .ok (.command value) => some ⟨value, arrival.session, arrival.time⟩
  | _ => none

def logged (service : Service) (arrivals : List Arrival) : List QueryLog.Entry :=
  arrivals.filterMap service.entryFor?

variable {service : Service} {name : String} {tree : FileTree} {entries : List QueryLog.Entry}

/-! ## One command and one line -/

theorem record_of_holds (logs : service.queryLog = some name)
    (holds : tree.Holds name (QueryLog.text entries).toUTF8) (entry : QueryLog.Entry) :
    ∃ after, service.record (m := StateM FileTree) entry tree = (.ok (), after) ∧
      after.Holds name (QueryLog.text (entries ++ [entry])).toUTF8 := by
  rcases holds.modify fun content => content ++ entry.line.toUTF8 with ⟨after, appends, holds⟩
  refine ⟨after, ?_, ?_⟩
  · simp only [record, logs, FileAccess.append, FileTree.changing, FileTree.append, appends]
  · rw [QueryLog.text_append]
    simpa [QueryLog.text] using holds

theorem holds_of_handle (logs : service.queryLog = some name)
    (holds : tree.Holds name (QueryLog.text entries).toUTF8) (time : String)
    (state : ServiceState σ) (id : String) (command : Json) :
    (service.handle (m := StateM FileTree) time state id command tree).2.Holds name
      (QueryLog.text (entries ++ [⟨command, id, time⟩])).toUTF8 := by
  rcases record_of_holds logs holds ⟨command, id, time⟩ with ⟨after, recorded, holds⟩
  rw [handle_of_logged recorded]
  exact holds

theorem holds_of_process (logs : service.queryLog = some name)
    (holds : tree.Holds name (QueryLog.text entries).toUTF8) (state : ServiceState σ)
    (arrival : Arrival) :
    (service.process (m := StateM FileTree) arrival.time state arrival.session arrival.line
      tree).2.Holds name
        (QueryLog.text (entries ++ (service.entryFor? arrival).toList)).toUTF8 := by
  unfold process entryFor?
  cases service.router.readLine arrival.session arrival.line with
  | error fault =>
    rw [Option.toList_none, List.append_nil]
    exact holds
  | ok input =>
    cases input with
    | expression text =>
      rw [Option.toList_none, List.append_nil]
      exact holds
    | command value => exact holds_of_handle logs holds arrival.time state arrival.session value

/-! ## Runs -/

theorem holds_of_processAll (logs : service.queryLog = some name) (arrivals : List Arrival) :
    {entries : List QueryLog.Entry} → {tree : FileTree} →
    tree.Holds name (QueryLog.text entries).toUTF8 → (state : ServiceState σ) →
      (service.processAll arrivals state tree).2.Holds name
        (QueryLog.text (entries ++ service.logged arrivals)).toUTF8 := by
  induction arrivals with
  | nil =>
    intro entries tree holds state
    rw [logged, List.filterMap_nil, List.append_nil]
    exact holds
  | cons arrival arrivals induction =>
    intro entries tree holds state
    have first := holds_of_process logs holds state arrival
    have others := induction first
      (service.process (m := StateM FileTree) arrival.time state arrival.session arrival.line
        tree).1.2
    -- The entry of the first line joins those that were there before the rest is logged.
    have regrouped : entries ++ service.logged (arrival :: arrivals) =
        entries ++ (service.entryFor? arrival).toList ++ service.logged arrivals := by
      simp only [logged, List.filterMap_cons, List.append_assoc]
      cases service.entryFor? arrival <;> rfl
    rw [regrouped]
    exact others

theorem append_of_openLog {before : FileTree}
    (opens : openLog (m := StateM FileTree) name before = (.ok (), tree)) :
    ∃ middle : FileTree, middle.append name "" = .ok tree := by
  have appends {middle : FileTree}
      (outcome : FileTree.changing (fun tree => tree.append name "") middle = (.ok (), tree)) :
      middle.append name "" = .ok tree := by
    unfold FileTree.changing at outcome
    split at outcome
    · cases outcome; assumption
    · cases outcome
  unfold openLog at opens
  cases parent : FileName.parent? name with
  | none =>
    rw [parent] at opens
    exact ⟨before, appends opens⟩
  | some directory =>
    rw [parent] at opens
    let next : Unit → ExceptT FileFault (StateM FileTree) Unit := fun _ =>
      ExceptT.mk (FileAccess.append name "")
    cases made : FileAccess.makeDirectories (m := StateM FileTree) directory before with
    | mk outcome middle =>
      cases outcome with
      | error fault =>
        have failed := (run_bind_of_error next made).symm.trans opens
        cases failed
      | ok value => exact ⟨middle, appends ((run_bind_of_ok next made).symm.trans opens)⟩

theorem holds_of_start {before : FileTree} {content : ByteArray}
    (logs : service.queryLog = some name)
    (starts : service.start (m := StateM FileTree) before = (.ok (), tree))
    (present : tree.read name = .ok content) : tree.Holds name content := by
  have appends : ∃ middle : FileTree, middle.append name "" = .ok tree := by
    simp only [start, logs] at starts
    exact append_of_openLog starts
  rcases appends with ⟨middle, appends⟩
  exact FileTree.holds_of_modify appends present

/-! ## Loading the log -/

theorem isOk_load_nothing (tree : FileTree) : (Store.load (m := StateM FileTree) {} tree).1.isOk :=
  rfl

theorem isOk_load_of_holds (settings : ResourceSettings)
    (holds : tree.Holds name (QueryLog.text entries).toUTF8) :
    (Store.load (m := StateM FileTree) { settings with exampleFile := some name } tree).1.isOk ↔
      (Store.load (m := StateM FileTree) { settings with exampleFile := none } tree).1.isOk ∧
        ∀ entry ∈ entries, entry.command.height < depthLimit := by
  have read : (Store.loadNamed (m := StateM FileTree) QueryLog.accepted [] (some name)
      tree).1.isOk ↔ ∀ entry ∈ entries, entry.command.height < depthLimit := by
    rw [← QueryLog.isOk_accepted_text, Store.loadNamed, Store.loadFile_of_holds holds]
    cases QueryLog.accepted (QueryLog.text entries) <;> rfl
  have unread : (Store.loadNamed (m := StateM FileTree) QueryLog.accepted [] none
      tree).1.isOk := rfl
  rw [Store.isOk_load, Store.isOk_load, read]
  simp only [unread, and_true, and_assoc]

/-- After any lines, the log that was opened empty can be loaded exactly when every command in it
leaves room for the object around it. -/
theorem isOk_load_processAll (logs : service.queryLog = some name) {before opened : FileTree}
    (starts : service.start (m := StateM FileTree) before = (.ok (), opened))
    (isEmpty : opened.read name = .ok ByteArray.empty) (arrivals : List Arrival)
    (state : ServiceState σ) (settings : ResourceSettings) :
    let after := (service.processAll arrivals state opened).2
    (Store.load (m := StateM FileTree) { settings with exampleFile := some name } after).1.isOk ↔
      (Store.load (m := StateM FileTree) { settings with exampleFile := none } after).1.isOk ∧
        ∀ entry ∈ service.logged arrivals, entry.command.height < depthLimit := by
  have holds : opened.Holds name (QueryLog.text []).toUTF8 := holds_of_start logs starts isEmpty
  exact isOk_load_of_holds settings (holds_of_processAll logs arrivals holds state)

def logging : Service where
  router := Router.bare
  queryLog := some "query.log"

def openedLog : FileTree := (logging.start (m := StateM FileTree) (.empty "/")).2

theorem start_logging : logging.start (m := StateM FileTree) (.empty "/") = (.ok (), openedLog) :=
  rfl

theorem read_openedLog : openedLog.read "query.log" = .ok ByteArray.empty := by decide +kernel

def deepLine (height : Nat) : Arrival := ⟨"", "s1", (Json.nested height).compact⟩

theorem logged_deepLine {height : Nat} (low : height + 1 ≤ depthLimit) :
    logging.logged [deepLine (height + 1)] = [⟨Json.nested (height + 1), "s1", ""⟩] := by
  have client : "s1" ≠ Session.console := by decide
  have height_le : (Json.array [Json.nested height]).height ≤ depthLimit := by
    rw [← Json.nested, Json.height_nested]
    exact low
  rcases Router.bare.readLine_compact_array client [Json.nested height] height_le with
      ⟨found, read, same⟩
  rw [same (Json.whole_nested (height + 1))] at read
  simp [logged, entryFor?, logging, deepLine, Json.nested, read]

/-- A log with a command as deep as can be is loaded. -/
theorem isOk_load_deepest_command :
    let after := (logging.processAll [deepLine 126]
      ({ source := ⟨0⟩ } : ServiceState MixedCounter) openedLog).2
    (Store.load (m := StateM FileTree) { exampleFile := some "query.log" } after).1.isOk := by
  have shallow : ∀ entry ∈ logging.logged [deepLine 126], entry.command.height < depthLimit := by
    intro entry member
    rw [logged_deepLine (by decide), List.mem_singleton] at member
    rw [member, Json.height_nested]
    decide
  have logs : logging.queryLog = some "query.log" := rfl
  have loads := isOk_load_processAll logs start_logging read_openedLog [deepLine 126]
    ({ source := ⟨0⟩ } : ServiceState MixedCounter) {}
  exact loads.mpr ⟨isOk_load_nothing _, shallow⟩

/-- A line that is read, though no log with it is: it nests as deep as the reader goes, and the
object around it deeper. -/
theorem deep_line_spoils_log :
    let after := (logging.processAll [deepLine 127]
      ({ source := ⟨0⟩ } : ServiceState MixedCounter) openedLog).2
    logging.start (m := StateM FileTree) (.empty "/") = (.ok (), openedLog) ∧
      openedLog.read "query.log" = .ok ByteArray.empty ∧
      (Store.load (m := StateM FileTree) { exampleFile := some "query.log" } after).1.isOk =
        false := by
  refine ⟨start_logging, read_openedLog, Bool.eq_false_iff.mpr fun isOk => ?_⟩
  have holds : openedLog.Holds "query.log" (QueryLog.text []).toUTF8 :=
    holds_of_start rfl start_logging read_openedLog
  have shallow := ((isOk_load_of_holds {} (holds_of_processAll rfl [deepLine 127] holds
    ({ source := ⟨0⟩ } : ServiceState MixedCounter))).mp isOk).2
  rw [List.nil_append, logged_deepLine (by decide)] at shallow
  have low := shallow _ (List.mem_singleton_self _)
  rw [Json.height_nested] at low
  exact absurd low (by decide)

end Service

end ChartDialogue
