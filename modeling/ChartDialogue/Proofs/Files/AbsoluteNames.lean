import ChartDialogue.Proofs.Files.Writing

/-! # Absolute names

A name and the absolute name made of it, by putting the name of the current directory before it,
mean the same file and end in the same way.
-/

namespace ChartDialogue

namespace FileName

variable {directory name : String}

theorem join_of_isAbsolute (isAbsolute : isAbsolute name) : join directory name = name :=
  if_pos isAbsolute

theorem join_of_relative (relative : isAbsolute name = false) (nonempty : directory ≠ "")
    (noSlash : FileTree.endsWithSlash directory = false) :
    join directory name = directory ++ "/" ++ name := by
  have isNonempty : directory.isEmpty = false := by simpa using nonempty
  unfold FileTree.endsWithSlash at noSlash
  rw [join, relative, isNonempty, noSlash]
  rfl

/-! ## Steps of longer names -/

theorem splitSlashes_append (left right : List Char) : (pending : List Char) →
    splitSlashes pending (left ++ '/' :: right) =
      splitSlashes pending left ++ splitSlashes [] right := by
  induction left with
  | nil => exact fun _ => rfl
  | cons character left induction =>
    intro pending
    by_cases slash : character = '/'
    · rw [slash, List.cons_append, splitSlashes, splitSlashes, induction, List.cons_append]
    · rw [List.cons_append, splitSlashes, splitSlashes, induction]
      · exact slash
      · exact slash

theorem walk_append (directory name : String) :
    walk (directory ++ "/" ++ name) = walk directory ++ walk name := by
  have characters : (directory ++ "/" ++ name).toList = directory.toList ++ '/' :: name.toList := by
    simp
  rw [walk, walk, walk, characters, splitSlashes_append, List.map_append, List.filter_append]

theorem steps_append (directory name : String) :
    steps (directory ++ "/" ++ name) = steps directory ++ steps name := by
  rw [steps, steps, steps, walk_append, List.filter_append]

theorem extension?_append (directory : String) {name ending : String}
    (ends : extension? name = some ending) :
    extension? (directory ++ "/" ++ name) = some ending := by
  have last : (steps (directory ++ "/" ++ name)).getLast? = (steps name).getLast? := by
    rw [steps_append, List.getLast?_append]
    cases found : (steps name).getLast? with
    | none =>
      rw [extension?, found] at ends
      cases ends
    | some last => rfl
  rw [← ends, extension?, extension?, last]

end FileName

namespace FileTree

variable {tree : FileTree} {name : String}

/-- Whether the current directory has an absolute name that others can be added to. -/
structure HasAbsoluteHome (tree : FileTree) : Prop where
  isAbsolute : FileName.isAbsolute tree.home
  noSlash : endsWithSlash tree.home = false
  noNull : '\x00' ∉ tree.home.toList

theorem HasAbsoluteHome.ne_empty (home : tree.HasAbsoluteHome) : tree.home ≠ "" := by
  intro empty
  have isAbsolute := home.isAbsolute
  rw [empty] at isAbsolute
  exact absurd isAbsolute (by decide)

theorem inside?_append (home rest : List Char) :
    inside? home (home ++ '/' :: rest) = some rest := by
  have front : home.isPrefixOf (home ++ '/' :: rest) := by simp
  rw [inside?, if_pos front, List.drop_left]
  rfl

theorem inside?_of_relative (home : FileName.isAbsolute tree.home)
    (relative : FileName.isAbsolute name = false) :
    inside? tree.home.toList name.toList = none := by
  have apart : tree.home.toList.isPrefixOf name.toList = false := by
    unfold FileName.isAbsolute at home relative
    cases shownHome : tree.home.toList with
    | nil => simp [shownHome] at home
    | cons first others =>
      cases shownName : name.toList with
      | nil => rfl
      | cons character characters =>
        rw [shownHome] at home
        rw [shownName] at relative
        have slash : first = '/' := by simpa using home
        have noSlash : character ≠ '/' := by simpa using relative
        rw [slash, List.isPrefixOf_cons_cons, beq_eq_false_iff_ne.mpr (Ne.symm noSlash)]
        rfl
  rw [inside?, apart]
  rfl

theorem route_join (home : tree.HasAbsoluteHome) (relative : FileName.isAbsolute name = false)
    (short : (tree.home ++ "/" ++ name).utf8ByteSize ≤ nameLimit) {way : List String × List String}
    (routes : tree.route name = .ok way) :
    tree.route (tree.home ++ "/" ++ name) = .ok way := by
  have characters : (tree.home ++ "/" ++ name).toList = tree.home.toList ++ '/' :: name.toList := by
    simp
  unfold route at routes ⊢
  rw [inside?_of_relative home.isAbsolute relative, relative, if_neg Bool.false_ne_true] at routes
  split_ifs at routes with null empty long
  have noNull : ¬ (tree.home ++ "/" ++ name).toList.contains '\x00' := by
    rw [characters]
    simpa [home.noNull] using null
  have nonempty : ¬ (tree.home ++ "/" ++ name).isEmpty := by simp
  rw [if_neg noNull, if_neg nonempty, if_neg (Nat.not_lt.mpr short), characters, inside?_append]
  dsimp only
  rw [String.ofList_toList]
  exact routes

theorem extension?_join (home : tree.HasAbsoluteHome) {ending : String}
    (ends : FileName.extension? name = some ending) :
    FileName.extension? (FileName.join tree.home name) = some ending := by
  cases relative : FileName.isAbsolute name with
  | true =>
    rw [FileName.join_of_isAbsolute relative]
    exact ends
  | false =>
    rw [FileName.join_of_relative relative home.ne_empty home.noSlash]
    exact FileName.extension?_append tree.home ends

theorem read_join (home : tree.HasAbsoluteHome)
    (short : (FileName.join tree.home name).utf8ByteSize ≤ nameLimit) {content : ByteArray}
    (found : tree.read name = .ok content) :
    tree.read (FileName.join tree.home name) = .ok content := by
  cases relative : FileName.isAbsolute name with
  | true =>
    rw [FileName.join_of_isAbsolute relative]
    exact found
  | false =>
    rw [FileName.join_of_relative relative home.ne_empty home.noSlash] at short ⊢
    obtain ⟨place, located, stands⟩ := exists_of_bind_ok found
    obtain ⟨way, routes, _⟩ := exists_of_bind_ok located
    have nonempty : name.toList ≠ [] := by
      intro empty
      rw [String.toList_eq_nil_iff.mp empty] at routes
      cases routes
    have ends : endsWithSlash (tree.home ++ "/" ++ name) = endsWithSlash name := by
      obtain ⟨first, others, shown⟩ := List.exists_cons_of_ne_nil nonempty
      simp [endsWithSlash, shown]
    have same : tree.locate (tree.home ++ "/" ++ name) = tree.locate name := by
      rw [locate, locate, route_join home relative short routes, routes, ends]
    rw [read, same]
    exact found

end FileTree

end ChartDialogue
