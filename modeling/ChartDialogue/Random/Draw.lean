import ChartDialogue.Random.WordSource

/-! # Drawing from ranges and lists

A number below a count is the upper half of a word times the count. Some words are rejected, so
that every number below the count has the same number of accepted words, a power of two.
-/

namespace ChartDialogue

abbrev Draw (σ : Type) := StateM σ

namespace Draw

/-! ## Numbers below a count -/

/-- How many accepted words lead to each number below a count. -/
def share (bits count : Nat) : Nat := Nat.pow 2 (bits - 1 - count.log2)

/-- Whether a word is accepted: the lower half of the product lies in the accepted zone. -/
def accepts (bits count word : Nat) : Bool :=
  decide (word * count % Nat.pow 2 bits < count * share bits count)

def index (bits count word : Nat) : Nat := word * count / Nat.pow 2 bits

theorem index_lt {bits count word : Nat} (inRange : word < Nat.pow 2 bits) (positive : 0 < count) :
    index bits count word < count := by
  apply Nat.div_lt_of_lt_mul
  rw [Nat.mul_comm word count, Nat.mul_comm (Nat.pow 2 bits) count]
  exact Nat.mul_lt_mul_of_pos_left inRange positive

/-- How often a word may be rejected before the next one is taken as it is. A sampler without this
bound would go on; at least half of all words are accepted, so both hardly ever differ. -/
def patience : Nat := 1000

def firstAccepted {σ : Type} [WordSource σ] (width : WordWidth) (count : Nat) :
    (patience : Nat) → Draw σ Nat
  | 0 => fun source =>
    let drawn := WordSource.next width source
    (index width.bits count drawn.1, drawn.2)
  | patience + 1 => fun source =>
    let drawn := WordSource.next width source
    if accepts width.bits count drawn.1 then (index width.bits count drawn.1, drawn.2)
    else firstAccepted width count patience drawn.2

def below {σ : Type} [WordSource σ] (width : WordWidth) (count : Nat) : Draw σ Nat :=
  firstAccepted width count patience

/-! ## Lists -/

def choiceWidth (count : Nat) : WordWidth := if count < 0x100000000 then .narrow else .wide

def choose {α σ : Type} [WordSource σ] : List α → Draw σ (Option α)
  | [] => pure none
  | first :: rest => fun source =>
    let values := first :: rest
    let drawn := below (choiceWidth values.length) values.length source
    (values[drawn.1]?, drawn.2)

/-! ## Shuffling -/

/-- Swap every position, from one down to the second, with one drawn from those up to it. -/
def swapDown {α σ : Type} [WordSource σ] : (position : Nat) → Array α → Draw σ (Array α)
  | 0, values => pure values
  | position + 1, values => fun source =>
    let drawn := below (choiceWidth (position + 2)) (position + 2) source
    swapDown position (values.swapIfInBounds (position + 1) drawn.1) drawn.2

def shuffle {α σ : Type} [WordSource σ] (values : List α) : Draw σ (List α) := fun source =>
  let swapped := swapDown (values.length - 1) values.toArray source
  (swapped.1.toList, swapped.2)

theorem swapIfInBounds_perm {α : Type} (values : Array α) (first second : Nat) :
    (values.swapIfInBounds first second).Perm values := by
  unfold Array.swapIfInBounds
  split
  · split
    · exact Array.swap_perm _ _
    · exact Array.Perm.refl _
  · exact Array.Perm.refl _

theorem swapDown_perm {α σ : Type} [WordSource σ] : (position : Nat) → (values : Array α) →
    (source : σ) → ((swapDown position values source).1).Perm values
  | 0, values, _ => Array.Perm.refl values
  | position + 1, _, _ => (swapDown_perm position _ _).trans (swapIfInBounds_perm _ _ _)

theorem shuffle_perm {α σ : Type} [WordSource σ] (values : List α) (source : σ) :
    ((shuffle values source).1).Perm values :=
  (swapDown_perm _ values.toArray source).toList

end Draw

end ChartDialogue
