import ChartDialogue.Grammar.SimplePath
import Mathlib.Data.List.Basic

/-! # Reading dotted paths

What comes back from the dotted text of a path are the pieces of its segments. So a path comes back
as it was exactly when no segment is empty or has a dot in it, and then its text is that of no other
such path.
-/

namespace ChartDialogue.SimplePath

def IsPlain (segment : String) : Prop := segment ≠ "" ∧ '.' ∉ segment.toList

instance (segment : String) : Decidable (IsPlain segment) :=
  inferInstanceAs (Decidable (segment ≠ "" ∧ '.' ∉ segment.toList))

/-! ## Pieces between dots -/

theorem splitDots_eq_splitOnPPrepend (pending text : List Char) :
    splitDots pending text = text.splitOnPPrepend (· == '.') pending := by
  induction text generalizing pending with
  | nil => rfl
  | cons character rest induction =>
    by_cases dot : character = '.'
    · subst dot
      rw [splitDots, induction, List.splitOnPPrepend_cons_pos (by rfl)]
      rfl
    · rw [splitDots, induction, List.splitOnPPrepend_cons_neg (by simpa using dot)]
      exact dot

theorem splitDots_eq_splitOn (text : List Char) : splitDots [] text = text.splitOn '.' :=
  splitDots_eq_splitOnPPrepend [] text

theorem dot_notMem_of_mem_splitDots {piece : List Char} (text : List Char) :
    {pending : List Char} → '.' ∉ pending → piece ∈ splitDots pending text → '.' ∉ piece := by
  induction text with
  | nil =>
    intro pending plain member
    rw [List.mem_singleton.mp member, List.mem_reverse]
    exact plain
  | cons character rest induction =>
    intro pending plain member
    by_cases dot : character = '.'
    · subst dot
      rw [splitDots] at member
      rcases List.mem_cons.mp member with rfl | later
      · rw [List.mem_reverse]
        exact plain
      · exact induction List.not_mem_nil later
    · rw [splitDots] at member
      · have longer : '.' ∉ character :: pending := by
          rw [List.mem_cons, not_or]
          exact ⟨Ne.symm dot, plain⟩
        exact induction longer member
      · exact dot

theorem splitOn_intercalate_dots {texts : List (List Char)} (nonempty : texts ≠ []) :
    (['.'].intercalate texts).splitOn '.' = texts.flatMap fun text => text.splitOn '.' := by
  induction texts with
  | nil => exact absurd rfl nonempty
  | cons text rest induction =>
    cases rest with
    | nil => simp
    | cons next others =>
      rw [List.intercalate_cons_cons, List.append_assoc, List.singleton_append,
        List.splitOn_append_cons_self, induction (List.cons_ne_nil next others)]
      rfl

/-! ## Segments -/

theorem segments_ofDotted (text : String) :
    (ofDotted text).segments =
      ((text.toList.splitOn '.').filter fun piece => ¬ piece.isEmpty).map String.ofList := by
  rw [ofDotted, splitDots_eq_splitOn]

theorem isPlain_of_mem_ofDotted {text segment : String}
    (member : segment ∈ (ofDotted text).segments) : IsPlain segment := by
  rcases List.mem_map.mp member with ⟨piece, kept, rfl⟩
  rcases List.mem_filter.mp kept with ⟨split, nonempty⟩
  constructor
  · intro empty
    simp_all
  · rw [String.toList_ofList]
    exact dot_notMem_of_mem_splitDots text.toList List.not_mem_nil split

theorem segments_ofDotted_of_isPlain {segment : String} (plain : IsPlain segment) :
    (ofDotted segment).segments = [segment] := by
  have nonempty : segment.toList ≠ [] := fun empty => plain.1 (String.toList_eq_nil_iff.mp empty)
  rw [segments_ofDotted, List.splitOn_eq_singleton plain.2]
  simp [nonempty]

/-- What is read from the dotted text of a path are the pieces of its segments, in order. -/
theorem segments_ofDotted_dotted (path : SimplePath) :
    (ofDotted path.dotted).segments =
      path.segments.flatMap fun segment => (ofDotted segment).segments := by
  rcases path with ⟨segments⟩
  cases segments with
  | nil => rfl
  | cons segment rest =>
    have texts : (segment :: rest).map String.toList ≠ [] := List.cons_ne_nil _ _
    have dots : ".".toList = ['.'] := rfl
    rw [segments_ofDotted, dotted, dottedSegments, String.toList_intercalate, dots,
      splitOn_intercalate_dots texts, List.flatMap_map, List.filter_flatMap, List.map_flatMap]
    exact List.flatMap_congr fun other _ => (segments_ofDotted other).symm

theorem ofDotted_dotted_of_isPlain {path : SimplePath}
    (plain : ∀ segment ∈ path.segments, IsPlain segment) : ofDotted path.dotted = path := by
  have unchanged : (ofDotted path.dotted).segments = path.segments :=
    calc (ofDotted path.dotted).segments
        = path.segments.flatMap fun segment => (ofDotted segment).segments :=
          segments_ofDotted_dotted path
      _ = path.segments.flatMap fun segment => [segment] :=
          List.flatMap_congr fun segment member =>
            segments_ofDotted_of_isPlain (plain segment member)
      _ = path.segments := List.flatMap_singleton' _
  exact congrArg SimplePath.mk unchanged

/-- A path comes back from its dotted text exactly when all of its segments can stand between dots,
and no two such paths have the same text. -/
theorem ofDotted_dotted :
    (∀ path : SimplePath,
      ofDotted path.dotted = path ↔ ∀ segment ∈ path.segments, IsPlain segment) ∧
    ∀ left right : SimplePath, (∀ segment ∈ left.segments, IsPlain segment) →
      (∀ segment ∈ right.segments, IsPlain segment) → left ≠ right →
      left.dotted ≠ right.dotted := by
  refine ⟨fun path => ⟨?_, ofDotted_dotted_of_isPlain⟩, ?_⟩
  · intro back segment member
    rw [← back] at member
    exact isPlain_of_mem_ofDotted member
  · intro left right leftPlain rightPlain different same
    apply different
    rw [← ofDotted_dotted_of_isPlain leftPlain, same, ofDotted_dotted_of_isPlain rightPlain]

/-- The field of an axis can be named by its dotted text. A segment with a dot in it cannot, and its
text is that of two segments. -/
theorem ofDotted_dotted_axis :
    let axis : SimplePath := ⟨["encoding", "x", "field"]⟩
    let other : SimplePath := ⟨["encoding", "y", "field"]⟩
    let joined : SimplePath := ⟨["encoding.x", "field"]⟩
    ofDotted axis.dotted = axis ∧ axis.dotted ≠ other.dotted ∧
      axis.dotted = joined.dotted ∧ ofDotted joined.dotted ≠ joined := by
  intro axis other joined
  have axisPlain : ∀ segment ∈ axis.segments, IsPlain segment := by decide +kernel
  have otherPlain : ∀ segment ∈ other.segments, IsPlain segment := by decide +kernel
  have different : axis ≠ other := by decide
  have dotInside : ¬ ∀ segment ∈ joined.segments, IsPlain segment := by decide +kernel
  refine ⟨(ofDotted_dotted.1 axis).mpr axisPlain,
    ofDotted_dotted.2 axis other axisPlain otherPlain different, by decide +kernel, ?_⟩
  exact fun back => dotInside ((ofDotted_dotted.1 joined).mp back)

end ChartDialogue.SimplePath
