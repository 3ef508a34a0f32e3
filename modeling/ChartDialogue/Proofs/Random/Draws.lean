import ChartDialogue.Random.Draw

/-! # Draws stay in range

A number below a count is below that count whatever the words are, so a list that has a member gives
one of its members.
-/

namespace ChartDialogue.Draw

variable {σ : Type} [WordSource σ]

theorem firstAccepted_lt {width : WordWidth} {count : Nat} (positive : 0 < count)
    (patience : Nat) (source : σ) : (firstAccepted width count patience source).1 < count := by
  have inRange (source : σ) : index width.bits count (WordSource.next width source).1 < count :=
    index_lt (WordSource.next_lt width source) positive
  induction patience generalizing source with
  | zero => exact inRange source
  | succ patience induction =>
    rw [firstAccepted]
    dsimp only
    split
    · exact inRange source
    · exact induction _

theorem below_lt (width : WordWidth) {count : Nat} (positive : 0 < count) (source : σ) :
    (below width count source).1 < count :=
  firstAccepted_lt positive patience source

theorem exists_choose {α : Type} {values : List α} (nonempty : values ≠ []) (source : σ) :
    ∃ value ∈ values, (choose values source).1 = some value := by
  cases values with
  | nil => exact absurd rfl nonempty
  | cons first rest =>
    have inRange := below_lt (choiceWidth (first :: rest).length)
      (List.length_pos_iff.mpr nonempty) source
    exact ⟨_, List.getElem_mem inRange, List.getElem?_eq_getElem inRange⟩

end ChartDialogue.Draw
