import ChartDialogue.Files.Tree
import ChartDialogue.Proofs.Json.Decoding
import Mathlib.Data.List.Basic

/-! # Writing to a tree of files

Writing never takes a directory away, so a name that could be written to leads to the same place
afterwards, where the new content is.
-/

namespace ChartDialogue.FileTree

variable {tree after : FileTree} {name : String} {place next : List String}

/-! ## Trees with at least the directories of another -/

structure KeepsDirectories (tree after : FileTree) : Prop where
  home : after.home = tree.home
  directory : ∀ place, tree.entry? place = some .directory → after.entry? place = some .directory

theorem directory_of_step (steps : tree.step place name = .ok next) :
    tree.entry? place = some .directory := by
  unfold step at steps
  split at steps
  · cases steps
  · cases steps
  · assumption

theorem KeepsDirectories.step (keeps : KeepsDirectories tree after)
    (steps : tree.step place name = .ok next) : after.step place name = .ok next := by
  have before := directory_of_step steps
  rw [← steps, FileTree.step, FileTree.step, before, keeps.directory place before]

theorem KeepsDirectories.follow (keeps : KeepsDirectories tree after) (names : List String) :
    (place : List String) → tree.follow place names = .ok next →
      after.follow place names = .ok next := by
  induction names with
  | nil => intro place follows; exact follows
  | cons name names induction =>
    intro place follows
    rcases exists_of_bind_ok follows with ⟨middle, steps, follows⟩
    rw [FileTree.follow, keeps.step steps]
    exact induction middle follows

theorem KeepsDirectories.route (keeps : KeepsDirectories tree after) (name : String) :
    after.route name = tree.route name := by
  rw [FileTree.route, FileTree.route, keeps.home]

theorem KeepsDirectories.site? (keeps : KeepsDirectories tree after)
    {found : Option (List String × String)} (isSite : tree.site? name = .ok found) :
    after.site? name = .ok found := by
  rcases exists_of_bind_ok isSite with ⟨⟨start, steps⟩, routes, isSite⟩
  rw [FileTree.site?, keeps.route, routes]
  cases last : steps.getLast? with
  | none =>
    simp only [last] at isSite
    simp only [bind, Except.bind, last]
    exact isSite
  | some name =>
    simp only [last] at isSite
    rcases exists_of_bind_ok isSite with ⟨place, follows, isSite⟩
    rcases exists_of_bind_ok isSite with ⟨here, stays, isSite⟩
    have followsAfter := keeps.follow steps.dropLast start follows
    have staysAfter := keeps.step stays
    simp only [bind, Except.bind, last, followsAfter, staysAfter]
    exact isSite

/-! ## Putting files -/

theorem entry?_of_free (free : tree.entry? place ≠ some .directory) :
    tree.entry? place = tree.entries.find? (key place) := by
  unfold entry? at free ⊢
  split
  · rename_i outside
    rw [if_pos outside] at free
    exact absurd rfl free
  · rfl

theorem entry?_put (free : tree.entry? place ≠ some .directory) (entry : FileEntry) :
    entry? (tree.put place entry) place = some entry := by
  unfold entry? at free ⊢
  split
  · rename_i outside
    rw [if_pos outside] at free
    exact absurd rfl free
  · exact StringMap.find?_insert_self tree.entries (key place) entry

theorem keepsDirectories_put (free : tree.entry? place ≠ some .directory) (entry : FileEntry) :
    KeepsDirectories tree (tree.put place entry) where
  home := rfl
  directory := by
    intro other isDirectory
    have here := entry?_of_free free
    unfold entry? at isDirectory ⊢
    split
    · rfl
    · rename_i inside
      rw [if_neg inside] at isDirectory
      -- No directory is at the place, so a directory has another key.
      have different : key other ≠ key place := by
        intro same
        rw [here, ← same] at free
        exact free isDirectory
      exact (StringMap.find?_insert_of_ne tree.entries entry different).trans isDirectory

/-! ## Where a name is written to -/

structure IsTarget (tree : FileTree) (name : String) (place : List String) : Prop where
  site : ∃ directory last,
    tree.site? name = .ok (some (directory, last)) ∧ tree.step directory last = .ok place
  noSlash : endsWithSlash name = false
  free : tree.entry? place ≠ some .directory

def content? (tree : FileTree) (place : List String) : Option ByteArray :=
  match tree.entry? place with
  | some (.file content) => some content
  | _ => none

theorem content?_put (free : tree.entry? place ≠ some .directory) (content : ByteArray) :
    (tree.put place (.file content)).content? place = some content := by
  rw [content?, entry?_put free]

theorem IsTarget.put (isTarget : tree.IsTarget name place) (content : ByteArray) :
    (tree.put place (.file content)).IsTarget name place := by
  have keeps := keepsDirectories_put isTarget.free (.file content)
  rcases isTarget.site with ⟨directory, last, isSite, steps⟩
  refine ⟨⟨directory, last, keeps.site? isSite, keeps.step steps⟩, isTarget.noSlash, ?_⟩
  rw [entry?_put isTarget.free]
  intro isDirectory
  cases isDirectory

theorem IsTarget.modify (isTarget : tree.IsTarget name place) (change : ByteArray → ByteArray) :
    tree.modify name change =
      .ok (tree.put place (.file (change ((tree.content? place).getD ByteArray.empty)))) := by
  rcases isTarget.site with ⟨directory, last, isSite, steps⟩
  have free := isTarget.free
  simp only [FileTree.modify, isSite, bind, Except.bind, isTarget.noSlash, steps, content?]
  cases present : tree.entry? place with
  | none => rfl
  | some entry =>
    cases entry with
    | file content => rfl
    | directory => exact absurd present free

theorem exists_isTarget_of_modify {change : ByteArray → ByteArray}
    (modifies : tree.modify name change = .ok after) : ∃ place, tree.IsTarget name place := by
  rcases exists_of_bind_ok modifies with ⟨found, isSite, modifies⟩
  cases found with
  | none => cases modifies
  | some found =>
    rcases found with ⟨directory, last⟩
    cases noSlash : endsWithSlash name with
    | true => simp [noSlash] at modifies
    | false =>
      simp only [noSlash] at modifies
      rcases exists_of_bind_ok modifies with ⟨place, steps, modifies⟩
      refine ⟨place, ⟨directory, last, isSite, steps⟩, noSlash, fun isDirectory => ?_⟩
      simp [isDirectory] at modifies

theorem follow_append (steps : List String) (last : String) :
    (place : List String) → tree.follow place (steps ++ [last]) =
      (tree.follow place steps).bind fun directory => tree.step directory last := by
  induction steps with
  | nil =>
    intro place
    cases steps : tree.step place last <;>
      simp [follow, steps, bind, Except.bind]
  | cons name steps induction =>
    intro place
    cases first : tree.step place name with
    | error fault => simp [follow, first, bind, Except.bind]
    | ok next =>
      have rest := induction next
      simp only [List.cons_append, follow, first, bind, Except.bind] at rest ⊢
      exact rest

theorem IsTarget.locate (isTarget : tree.IsTarget name place) : tree.locate name = .ok place := by
  rcases isTarget.site with ⟨directory, last, isSite, step⟩
  rcases exists_of_bind_ok isSite with ⟨⟨start, steps⟩, routes, isSite⟩
  cases last? : steps.getLast? with
  | none => simp [last?, pure, Except.pure] at isSite
  | some final =>
    simp only [last?] at isSite
    rcases exists_of_bind_ok isSite with ⟨above, follows, isSite⟩
    rcases exists_of_bind_ok isSite with ⟨here, _, isSite⟩
    have sameSite : above = directory ∧ final = last := by
      simp only [pure, Except.pure] at isSite
      split at isSite
      · cases isSite
      · cases isSite; exact ⟨rfl, rfl⟩
    rcases sameSite with ⟨rfl, rfl⟩
    -- The site is found without the last step; the walk of `locate` takes that one too.
    have whole : steps = steps.dropLast ++ [final] :=
      (List.dropLast_append_getLast? final last?).symm
    have reaches : tree.follow start steps = .ok place := by
      rw [whole, follow_append, follows]
      exact step
    have noSlash := isTarget.noSlash
    simp only [FileTree.locate, routes, bind, Except.bind, reaches, noSlash]
    cases tree.entry? place with
    | none => rfl
    | some entry => cases entry <;> rfl

theorem IsTarget.read (isTarget : tree.IsTarget name place) :
    tree.read name = (tree.content? place).elim (.error .notFound) .ok := by
  have free := isTarget.free
  simp only [FileTree.read, isTarget.locate, bind, Except.bind, content?]
  cases present : tree.entry? place with
  | none => rfl
  | some entry =>
    cases entry with
    | file content => rfl
    | directory => exact absurd present free

/-! ## Files that can be written to -/

/-- Whether a name is that of a file that can be written to and has some content. -/
def Holds (tree : FileTree) (name : String) (content : ByteArray) : Prop :=
  ∃ place, tree.IsTarget name place ∧ tree.content? place = some content

variable {content : ByteArray}

theorem Holds.read (holds : tree.Holds name content) : tree.read name = .ok content := by
  rcases holds with ⟨place, isTarget, present⟩
  rw [isTarget.read, present]
  rfl

theorem Holds.modify (holds : tree.Holds name content) (change : ByteArray → ByteArray) :
    ∃ after, tree.modify name change = .ok after ∧ after.Holds name (change content) := by
  rcases holds with ⟨place, isTarget, present⟩
  refine ⟨_, isTarget.modify change, place, isTarget.put _, ?_⟩
  rw [present]
  exact content?_put isTarget.free _

theorem holds_of_modify {change : ByteArray → ByteArray}
    (modifies : tree.modify name change = .ok after) (present : after.read name = .ok content) :
    after.Holds name content := by
  rcases exists_isTarget_of_modify modifies with ⟨place, isTarget⟩
  rw [isTarget.modify] at modifies
  cases modifies
  refine ⟨place, isTarget.put _, ?_⟩
  have read := (isTarget.put _).read.symm.trans present
  rw [content?_put isTarget.free] at read ⊢
  cases read
  rfl

theorem holds_of_write {text : String} (writes : tree.write name text = .ok after) :
    after.Holds name text.toUTF8 := by
  rcases exists_isTarget_of_modify writes with ⟨place, isTarget⟩
  rw [write, isTarget.modify] at writes
  cases writes
  exact ⟨place, isTarget.put _, content?_put isTarget.free _⟩

theorem home_of_write {text : String} (writes : tree.write name text = .ok after) :
    after.home = tree.home := by
  rcases exists_isTarget_of_modify writes with ⟨place, isTarget⟩
  rw [write, isTarget.modify] at writes
  cases writes
  rfl

end ChartDialogue.FileTree
