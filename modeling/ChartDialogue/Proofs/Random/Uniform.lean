import ChartDialogue.Random.Draw
import Mathlib.Data.FinEnum
import Mathlib.Data.Set.Card
import Mathlib.Order.Interval.Finset.Nat

/-! # Choices are uniform

The words that are taken for one number below a count are those whose product with the count lies
in a window. All windows are as long, and their length is a multiple of the count, so every number
has the same share of the words.
-/

namespace ChartDialogue.Draw

/-! ## Windows -/

section Windows

variable {bits count number word : Nat}

/-- The first word whose product with the count reaches the window of a number. -/
def firstWord (bits count number : Nat) : Nat := (number * 2 ^ bits + (count - 1)) / count

theorem firstWord_le_iff (positive : 0 < count) :
    firstWord bits count number ≤ word ↔ number * 2 ^ bits ≤ word * count := by
  rw [firstWord, Nat.div_le_iff_le_mul_add_pred positive, Nat.mul_comm count]
  omega

theorem count_mul_share_le (positive : 0 < count) (small : count < 2 ^ bits) :
    count * share bits count ≤ 2 ^ bits := by
  have nonzero : count ≠ 0 := Nat.ne_of_gt positive
  have fits : count.log2 < bits := (Nat.log2_lt nonzero).mpr small
  have exponents : count.log2 + 1 + (bits - 1 - count.log2) = bits := by omega
  calc
    count * share bits count ≤ 2 ^ (count.log2 + 1) * 2 ^ (bits - 1 - count.log2) :=
      Nat.mul_le_mul_right _ (Nat.le_of_lt Nat.lt_log2_self)
    _ = 2 ^ bits := by rw [← Nat.pow_add, exponents]

/-- The words for a number are as many in a row as the share says. -/
theorem accepts_and_index_iff (positive : 0 < count) (small : count < 2 ^ bits)
    (below : number < count) :
    (word < 2 ^ bits ∧ accepts bits count word = true ∧ index bits count word = number) ↔
      firstWord bits count number ≤ word ∧
        word < firstWord bits count number + share bits count := by
  have zone := count_mul_share_le positive small
  have limit : 0 < 2 ^ bits := Nat.two_pow_pos bits
  have split := Nat.div_add_mod (word * count) (2 ^ bits)
  have shifted : firstWord bits count number + share bits count ≤ word ↔
      number * 2 ^ bits + share bits count * count ≤ word * count := by
    by_cases enough : share bits count ≤ word
    · rw [← Nat.le_sub_iff_add_le enough, firstWord_le_iff positive, Nat.sub_mul]
      have product := Nat.mul_le_mul_right count enough
      omega
    · have product := Nat.mul_lt_mul_of_pos_right (Nat.lt_of_not_le enough) positive
      omega
  rw [← Nat.not_le (a := firstWord bits count number + share bits count), shifted,
    firstWord_le_iff positive, accepts, decide_eq_true_eq, index]
  simp only [Nat.pow_eq] at *
  rw [Nat.mul_comm count (share bits count)] at *
  constructor
  · rintro ⟨-, accepted, rfl⟩
    rw [Nat.mul_comm (word * count / 2 ^ bits)]
    omega
  · rintro ⟨reached, notPassed⟩
    have quotient : word * count / 2 ^ bits = number := by
      apply Nat.div_eq_of_lt_le
      · exact reached
      · rw [Nat.add_mul]
        omega
    rw [quotient] at split
    rw [Nat.mul_comm number] at notPassed
    refine ⟨?_, by omega, quotient⟩
    have bounded : word * count < count * 2 ^ bits := by
      have next : (number + 1) * 2 ^ bits ≤ count * 2 ^ bits := Nat.mul_le_mul_right _ below
      rw [Nat.add_mul, Nat.mul_comm number] at next
      omega
    rw [Nat.mul_comm count] at bounded
    exact Nat.lt_of_mul_lt_mul_right bounded

end Windows

/-! ## Narrow words -/

section NarrowWords

variable {count number : Nat}

def leadingZeros (count : Nat) : Nat := (BitVec.ofNat 32 count).clz.toNat

def Takes (count : Nat) (word : UInt32) : Prop :=
  word.toNat * count % 2 ^ 32 ≤ count * 2 ^ leadingZeros count - 1

def numberOf (count : Nat) (word : UInt32) : Nat := word.toNat * count / 2 ^ 32

instance (count : Nat) : DecidablePred (Takes count) := fun word =>
  Nat.decLe (word.toNat * count % 2 ^ 32) (count * 2 ^ leadingZeros count - 1)

theorem share_narrow (positive : 0 < count) (small : count < 2 ^ 32) :
    share 32 count = 2 ^ leadingZeros count := by
  have value : (BitVec.ofNat 32 count).toNat = count := by
    rw [BitVec.toNat_ofNat, Nat.mod_eq_of_lt small]
  have nonzero : BitVec.ofNat 32 count ≠ 0#32 := by
    intro zero
    rw [zero] at value
    exact Nat.ne_of_gt positive value.symm
  have lower := BitVec.two_pow_sub_clz_le_toNat_of_ne_zero (by decide) nonzero
  have upper := BitVec.toNat_lt_two_pow_sub_clz (x := BitVec.ofNat 32 count)
  rw [value] at lower upper
  have within : leadingZeros count < 32 := by
    by_contra beyond
    have none : 32 - leadingZeros count = 0 := by omega
    rw [← leadingZeros, none] at upper
    omega
  have logarithm : count.log2 = 31 - leadingZeros count := by
    rw [Nat.log2_eq_iff (Nat.ne_of_gt positive)]
    refine ⟨lower, ?_⟩
    have successor : 31 - leadingZeros count + 1 = 32 - leadingZeros count := by omega
    rw [successor]
    exact upper
  have exponent : 32 - 1 - count.log2 = leadingZeros count := by omega
  rw [share, exponent]
  rfl

theorem accepts_iff_takes (positive : 0 < count) (small : count < 2 ^ 32) (word : UInt32) :
    accepts 32 count word.toNat = true ↔ Takes count word := by
  have zone : 0 < count * 2 ^ leadingZeros count := Nat.mul_pos positive (Nat.two_pow_pos _)
  rw [accepts, decide_eq_true_eq, Takes, share_narrow positive small, Nat.pow_eq]
  omega

theorem numberOf_lt (positive : 0 < count) (word : UInt32) : numberOf count word < count :=
  index_lt word.toNat_lt positive

theorem ncard_takes (positive : 0 < count) (small : count < 2 ^ 32) (below : number < count) :
    {word : UInt32 | Takes count word ∧ numberOf count word = number}.ncard =
      2 ^ leadingZeros count := by
  let first := firstWord 32 count number
  have window : UInt32.toNat '' {word | Takes count word ∧ numberOf count word = number} =
      (Finset.Ico first (first + share 32 count) : Set Nat) := by
    ext value
    rw [Finset.coe_Ico, Set.mem_Ico, ← accepts_and_index_iff positive small below]
    constructor
    · rintro ⟨word, ⟨takes, leads⟩, rfl⟩
      exact ⟨word.toNat_lt, (accepts_iff_takes positive small word).mpr takes, leads⟩
    · rintro ⟨inRange, accepted, leads⟩
      have same : (UInt32.ofNat value).toNat = value := UInt32.toNat_ofNat_of_lt' inRange
      refine ⟨UInt32.ofNat value, ⟨?_, ?_⟩, same⟩
      · rwa [← accepts_iff_takes positive small, same]
      · rwa [numberOf, same]
  have injective : Function.Injective UInt32.toNat := fun _ _ same => UInt32.toNat_inj.mp same
  rw [← Set.ncard_image_of_injective _ injective, window, Set.ncard_coe_finset, Nat.card_Ico,
    Nat.add_sub_cancel_left, share_narrow positive small]

theorem ncard_takes_value_at {α : Type} [DecidableEq α] {values : List α} (value : α)
    (positive : 0 < values.length) (small : values.length < 2 ^ 32) {position : Nat}
    (within : position < values.length) :
    {word : UInt32 | Takes values.length word ∧ numberOf values.length word = position ∧
      values[numberOf values.length word]? = some value}.ncard =
        [values[position]].count value * 2 ^ leadingZeros values.length := by
  by_cases same : values[position] = value
  · rw [List.count_singleton, if_pos (by simpa using same), Nat.one_mul,
      ← ncard_takes positive small within]
    congr 1
    ext word
    constructor
    · rintro ⟨takes, equal, -⟩
      exact ⟨takes, equal⟩
    · rintro ⟨takes, equal⟩
      exact ⟨takes, equal, by rw [equal, List.getElem?_eq_getElem within, same]⟩
  · rw [List.count_singleton, if_neg (by simpa using same), Nat.zero_mul, Set.ncard_eq_zero,
      Set.eq_empty_iff_forall_notMem]
    rintro word ⟨-, equal, found⟩
    rw [equal, List.getElem?_eq_getElem within] at found
    exact same (Option.some.inj found)

theorem ncard_takes_value_below {α : Type} [DecidableEq α] (values : List α) (value : α)
    (positive : 0 < values.length) (small : values.length < 2 ^ 32) : (limit : Nat) →
    limit ≤ values.length →
      {word : UInt32 | Takes values.length word ∧ numberOf values.length word < limit ∧
        values[numberOf values.length word]? = some value}.ncard =
          (values.take limit).count value * 2 ^ leadingZeros values.length
  | 0, _ => by simp
  | limit + 1, within => by
    let words (reached : Nat → Prop) : Set UInt32 :=
      {word | Takes values.length word ∧ reached (numberOf values.length word) ∧
        values[numberOf values.length word]? = some value}
    have below := ncard_takes_value_below values value positive small limit (by omega)
    have here := ncard_takes_value_at value positive small within
    have split : words (· < limit + 1) = words (· < limit) ∪ words (· = limit) := by
      ext word
      simp only [words, Set.mem_ofPred_eq, Set.mem_union, Nat.lt_succ_iff_lt_or_eq]
      tauto
    have apart : Disjoint (words (· < limit)) (words (· = limit)) := by
      rw [Set.disjoint_left]
      rintro word ⟨-, before, -⟩ ⟨-, equal, -⟩
      exact Nat.ne_of_lt before equal
    calc
      (words (· < limit + 1)).ncard
          = (words (· < limit)).ncard + (words (· = limit)).ncard := by
        rw [split, Set.ncard_union_eq apart]
      _ = (values.take limit).count value * 2 ^ leadingZeros values.length +
          [values[limit]].count value * 2 ^ leadingZeros values.length :=
        congrArg₂ (· + ·) below here
      _ = (values.take (limit + 1)).count value * 2 ^ leadingZeros values.length := by
        rw [List.take_succ_eq_append_getElem within, List.count_append, Nat.add_mul]

theorem ncard_takes_value {α : Type} [DecidableEq α] {values : List α} (value : α)
    (positive : 0 < values.length) (small : values.length < 2 ^ 32) :
    {word : UInt32 | Takes values.length word ∧
      values[numberOf values.length word]? = some value}.ncard =
        values.count value * 2 ^ leadingZeros values.length := by
  have all := ncard_takes_value_below values value positive small values.length (Nat.le_refl _)
  rw [List.take_length] at all
  rw [← all]
  congr 1
  ext word
  simp [numberOf_lt positive word]

end NarrowWords

end ChartDialogue.Draw
