import ChartDialogue.Proofs.Json.CompactText
import ChartDialogue.Session.QueryLog

/-! # The query log is read back line by line

Every entry stands on a line of its own. A log is read back when no command in it nests so deep that
the object around it is past the reader.
-/

namespace ChartDialogue

theorem isOk_map {ε α β : Type} (change : α → β) (result : Except ε α) :
    (change <$> result).isOk = result.isOk := by
  cases result <;> rfl

theorem isOk_mapM {ε α β : Type} (action : α → Except ε β) (list : List α) :
    (list.mapM action).isOk ↔ ∀ item ∈ list, (action item).isOk := by
  induction list with
  | nil => simp [pure, Except.pure, Except.isOk, Except.toBool]
  | cons item list induction =>
    rw [List.mapM_cons, List.forall_mem_cons, ← induction]
    cases action item with
    | error fault => simp [bind, Except.bind, Except.isOk, Except.toBool]
    | ok result =>
      have rest : ((result :: ·) <$> list.mapM action).isOk = (list.mapM action).isOk :=
        isOk_map ..
      rw [← rest]
      simp [bind, Except.bind, Except.isOk, Except.toBool, Functor.map, Except.map, pure,
        Except.pure]

namespace Text

theorem splitLines_append {line : List Char} (noLineFeed : '\n' ∉ line) (rest : List Char) :
    (pending : List Char) → splitLines pending (line ++ '\n' :: rest) =
      finishLine (line.reverse ++ pending) :: splitLines [] rest := by
  induction line with
  | nil => intro pending; rfl
  | cons character line induction =>
    intro pending
    have different : character ≠ '\n' := fun same => noLineFeed (by simp [same])
    have others := induction (fun member => noLineFeed (List.mem_cons_of_mem character member))
      (character :: pending)
    rw [List.reverse_cons, List.append_assoc, List.singleton_append, ← others, List.cons_append,
      splitLines]
    exact different

def IsFramed (line : List Char) : Prop :=
  ∃ first inner last,
    line = first :: (inner ++ [last]) ∧ isBlank first = false ∧ isBlank last = false

theorem finishLine_of_isFramed {line : List Char} (isFramed : IsFramed line) :
    finishLine line.reverse = line := by
  rcases isFramed with ⟨first, inner, last, rfl, _, notBlank⟩
  have notReturn : last ≠ '\r' := by
    rintro rfl
    exact absurd notBlank (by decide)
  rw [List.reverse_cons, List.reverse_append, List.reverse_singleton, List.singleton_append,
    List.cons_append, finishLine]
  · simp
  · intro rest same
    exact notReturn (List.cons.inj same).1

theorem trim_of_isFramed {line : List Char} (isFramed : IsFramed line) :
    trim (String.ofList line) = String.ofList line := by
  rcases isFramed with ⟨first, inner, last, rfl, opens, closes⟩
  simp [trim, trimCharacters, opens, closes]

end Text

namespace QueryLog

/-! ## Entries -/

def Entry.members (entry : Entry) : Members none :=
  Members.ofList [
    ("q", entry.command), ("sessionId", .string entry.session), ("time", .string entry.time)]

theorem Entry.encode_eq (entry : Entry) : entry.encode = .object entry.members := rfl

theorem Entry.toList_members (entry : Entry) :
    entry.members.toList = [
      ("q", entry.command), ("sessionId", .string entry.session),
      ("time", .string entry.time)] := by
  have ascending : Entries.Ascending [
      ("q", entry.command), ("sessionId", .string entry.session),
      ("time", .string entry.time)] := by
    have first : "q" < "sessionId" := by decide
    have second : "q" < "time" := by decide
    have third : "sessionId" < "time" := by decide
    simp only [Entries.Ascending, List.pairwise_cons, List.forall_mem_cons, first, second, third,
      List.not_mem_nil, false_imp_iff, implies_true, List.Pairwise.nil, and_self]
  rw [members, Members.toList_ofList, Entries.ofList_of_ascending ascending]

theorem Entry.isFramed (entry : Entry) : Text.IsFramed entry.encode.render := by
  rcases render_object_eq_append entry.members with ⟨inner, braced⟩
  exact ⟨_, inner, _, braced, by decide, by decide⟩

theorem Entry.height_encode (entry : Entry) : entry.encode.height = entry.command.height + 1 := by
  rw [encode_eq, Json.height, Members.height_eq_foldr, toList_members]
  simp [Json.height]

/-! ## Lines -/

theorem toList_text (entries : List Entry) :
    (text entries).toList = entries.flatMap fun entry => entry.encode.render ++ ['\n'] := by
  simp [text, Entry.line, Json.compact, String.toList_join, List.flatMap_map]

theorem lines_text (entries : List Entry) :
    Text.lines (text entries) = entries.map fun entry => entry.encode.compact := by
  rw [Text.lines, toList_text]
  induction entries with
  | nil => rfl
  | cons entry entries induction =>
    rw [List.flatMap_cons, List.append_assoc, List.singleton_append,
      Text.splitLines_append entry.encode.lineFeed_notMem_render, List.append_nil,
      Text.finishLine_of_isFramed entry.isFramed, List.map_cons, List.map_cons, induction]
    rfl

theorem parseLines_text (entries : List Entry) :
    parseLines (text entries) = entries.mapM fun entry => parseLine entry.encode.compact := by
  have kept : (entries.map fun entry => entry.encode.compact).filter
      (fun line => ¬ (Text.trim line).isEmpty) = entries.map fun entry => entry.encode.compact := by
    rw [List.filter_eq_self]
    intro line member
    rcases List.mem_map.mp member with ⟨entry, _, rfl⟩
    rcases render_object_eq_append entry.members with ⟨inner, braced⟩
    rw [Json.compact, Text.trim_of_isFramed entry.isFramed, Entry.encode_eq, braced]
    simp
  rw [parseLines, lines_text, kept, List.mapM_map]
  rfl

theorem Entry.whole_members {entry : Entry} (whole : entry.command.Whole) :
    (Json.object entry.members).Whole := by
  intro number inside
  rcases inside with _ | _ | ⟨member, inner⟩
  rw [entry.toList_members] at member
  rcases member with _ | ⟨_, _ | ⟨_, _ | ⟨_, member⟩⟩⟩
  · exact whole number inner
  · cases inner
  · cases inner
  · cases member

theorem parseLine_encode (entry : Entry) :
    (entry.command.height < depthLimit →
      ∃ members, parseLine entry.encode.compact = .ok members ∧
        (entry.command.Whole → members = entry.members)) ∧
    (depthLimit ≤ entry.command.height →
      ∃ error, parseLine entry.encode.compact = .error error) := by
  have height := entry.height_encode
  rw [Entry.encode_eq] at height ⊢
  rcases readWhole_readObject_compact entry.members with ⟨reads, fails⟩
  refine ⟨fun low => ?_, fun deep => fails (by omega)⟩
  rcases reads (by omega) with ⟨members, read, same⟩
  exact ⟨members, read, fun whole => same (Entry.whole_members whole)⟩

theorem isOk_parseLine_encode (entry : Entry) :
    (parseLine entry.encode.compact).isOk ↔ entry.command.height < depthLimit := by
  rcases parseLine_encode entry with ⟨reads, fails⟩
  constructor
  · intro isOk
    by_contra deep
    rcases fails (not_lt.mp deep) with ⟨error, failed⟩
    rw [failed] at isOk
    cases isOk
  · intro low
    rcases reads low with ⟨members, read, _⟩
    rw [read]
    rfl

/-- A log is read back exactly when every command in it leaves room for the object around it. -/
theorem isOk_accepted_text (entries : List Entry) :
    (accepted (text entries)).isOk ↔ ∀ entry ∈ entries, entry.command.height < depthLimit := by
  rw [accepted, isOk_map, parseLines_text, isOk_mapM]
  simp only [isOk_parseLine_encode]

end QueryLog

end ChartDialogue
