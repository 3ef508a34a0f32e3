import ChartDialogue.Proofs.Json.Decoding
import ChartDialogue.Proofs.Session.CommandLog
import ChartDialogue.Proofs.Session.Runs

/-! # The log gives back what was accepted

What is loaded from the log of a run are the entries of the acceptances that were sent, as they were
sent and in their order. Other commands are in the log as well, but are not loaded.
-/

namespace ChartDialogue

namespace QueryLog

def Entry.isAcceptance (entry : Entry) : Bool :=
  match entry.command with
  | .array (.string name :: _) => name == "accept"
  | _ => false

theorem isAccepted_members (entry : Entry) : isAccepted entry.members = entry.isAcceptance := by
  have command : entry.members.find? "q" = some entry.command := by
    rw [Members.find?_eq_lookup, entry.toList_members, Entries.lookup_cons_self]
  unfold isAccepted commandName? Entry.isAcceptance
  rw [command]
  split
  · rename_i equal
    rw [equal]
    rfl
  · rename_i other
    rw [Option.bind_some]
    cases equal : entry.command with
    | array elements =>
      cases elements with
      | nil => rfl
      | cons first rest =>
        cases first with
        | string name => exact absurd equal (other name rest)
        | null | bool _ | number _ | array _ | object _ => rfl
    | null | bool _ | number _ | string _ | object _ => rfl

theorem accepted_text {entries : List Entry}
    (shallow : ∀ entry ∈ entries, entry.command.height < depthLimit)
    (whole : ∀ entry ∈ entries, entry.command.Whole) :
    accepted (text entries) = .ok ((entries.filter Entry.isAcceptance).map Entry.members) := by
  have read : ∀ entry ∈ entries, parseLine entry.encode.compact = .ok entry.members := by
    intro entry member
    rcases (parseLine_encode entry).1 (shallow entry member) with ⟨members, read, same⟩
    rw [read, same (whole entry member)]
  have kept : (entries.map Entry.members).filter isAccepted =
      (entries.filter Entry.isAcceptance).map Entry.members := by
    rw [List.filter_map]
    congr 2
    funext entry
    exact isAccepted_members entry
  rw [accepted, parseLines_text, mapM_eq_ok_map read, ← kept]
  rfl

end QueryLog

def Call.entry (call : Call) : QueryLog.Entry := ⟨call.command, call.session, call.time⟩

namespace Service

variable {σ : Type} [WordSource σ] {service : Service} {name : String}

theorem holds_of_handleAll (logs : service.queryLog = some name) (calls : List Call) :
    {entries : List QueryLog.Entry} → {tree : FileTree} →
    tree.Holds name (QueryLog.text entries).toUTF8 → (state : ServiceState σ) →
      (service.handleAll calls state tree).2.Holds name
        (QueryLog.text (entries ++ calls.map Call.entry)).toUTF8 := by
  induction calls with
  | nil =>
    intro entries tree holds state
    rw [List.map_nil, List.append_nil]
    exact holds
  | cons call calls induction =>
    intro entries tree holds state
    cases handled : (service.withParser call.parser).handle (m := StateM FileTree) call.time state
        call.session call.command tree with
    | mk turned after =>
      -- The rest of the run starts from a log that has the entry of this call as its last.
      have logsToo : (service.withParser call.parser).queryLog = some name := logs
      have first := holds_of_handle logsToo holds call.time state call.session call.command
      rw [handled] at first
      rw [handleAll_cons calls handled, List.map_cons, List.append_cons]
      exact induction first turned.2

theorem loadNamed_of_holds {tree : FileTree} {entries : List QueryLog.Entry}
    (holds : tree.Holds name (QueryLog.text entries).toUTF8)
    (shallow : ∀ entry ∈ entries, entry.command.height < depthLimit)
    (whole : ∀ entry ∈ entries, entry.command.Whole) :
    (Store.loadNamed (m := StateM FileTree) QueryLog.accepted [] (some name) tree).1 =
      .ok ((entries.filter QueryLog.Entry.isAcceptance).map QueryLog.Entry.members) := by
  rw [Store.loadNamed, Store.loadFile_of_holds holds, QueryLog.accepted_text shallow whole]
  rfl

/-- What is loaded from the log of a run that was opened empty: the entries of the acceptances, each
once and in order, beside whatever the other files hold. -/
theorem load_handleAll (logs : service.queryLog = some name) {before opened : FileTree}
    (starts : service.start (m := StateM FileTree) before = (.ok (), opened))
    (isEmpty : opened.read name = .ok ByteArray.empty) {calls : List Call}
    (shallow : ∀ call ∈ calls, call.command.height ≤ 126)
    (whole : ∀ call ∈ calls, call.command.Whole) (state : ServiceState σ) :
    let after := (service.handleAll calls state opened).2
    let examples :=
      (calls.filter fun call => call.entry.isAcceptance).map fun call => call.entry.members
    (Store.load (m := StateM FileTree) { exampleFile := some name } after).1 = .ok { examples } ∧
      ∀ settings : ResourceSettings,
        (Store.load (m := StateM FileTree) { settings with exampleFile := some name } after).1 =
          (fun store => { store with examples }) <$>
            (Store.load (m := StateM FileTree) { settings with exampleFile := none } after).1 := by
  intro after examples
  have holds : opened.Holds name (QueryLog.text []).toUTF8 := holds_of_start logs starts isEmpty
  have holds : after.Holds name (QueryLog.text (calls.map Call.entry)).toUTF8 :=
    holds_of_handleAll logs calls holds state
  have read : (Store.loadNamed (m := StateM FileTree) QueryLog.accepted [] (some name) after).1 =
      .ok examples := by
    have entries : ((calls.map Call.entry).filter QueryLog.Entry.isAcceptance).map
        QueryLog.Entry.members = examples := by
      rw [List.filter_map, List.map_map]
      rfl
    rw [← entries]
    have shallow : ∀ entry ∈ calls.map Call.entry, entry.command.height < depthLimit :=
      List.forall_mem_map.mpr fun call member => Nat.lt_succ_of_le (shallow call member)
    exact loadNamed_of_holds holds shallow (List.forall_mem_map.mpr whole)
  have loads (settings : ResourceSettings) := Store.load_exampleFile settings read
  exact ⟨loads {}, loads⟩

/-- Acceptances that are not even well formed are read back as well, with line breaks and quotes in
them; what else was sent is not. -/
theorem load_mixed_calls :
    let accepted := Json.array [.string "accept", .string "say \"bar\"\nor \u2028"]
    let bare := Json.array [.string "accept"]
    let calls : List Call := [
      ⟨"1", "a", accepted, .silent⟩, ⟨"2", "b", .array [.string "q", accepted], .silent⟩,
      ⟨"3", "c", .string "accept", .silent⟩, ⟨"4", "a", bare, .silent⟩]
    let after := (logging.handleAll calls ({ source := ⟨0⟩ } : ServiceState MixedCounter)
      openedLog).2
    (Store.load (m := StateM FileTree) { exampleFile := some "query.log" } after).1 = .ok {
      examples := [
        .ofList [("q", accepted), ("sessionId", .string "a"), ("time", .string "1")],
        .ofList [("q", bare), ("sessionId", .string "a"), ("time", .string "4")]] } := by
  intro accepted bare calls after
  have wholeText (text : String) : (Json.string text).Whole := fun _ inside => by cases inside
  have wholeAccepted : accepted.Whole := Json.whole_array (by simp [wholeText])
  have whole : ∀ call ∈ calls, call.command.Whole := by
    have wholeQuestion : (Json.array [.string "q", accepted]).Whole :=
      Json.whole_array (by simp [wholeText, wholeAccepted])
    have wholeBare : bare.Whole := Json.whole_array (by simp [wholeText])
    simp only [calls, List.forall_mem_cons]
    exact ⟨wholeAccepted, wholeQuestion, wholeText _, wholeBare, fun _ member => by cases member⟩
  have shallow : ∀ call ∈ calls, call.command.height ≤ 126 := by decide
  have logs : logging.queryLog = some "query.log" := rfl
  exact (load_handleAll logs start_logging read_openedLog shallow whole _).1

end Service

end ChartDialogue
