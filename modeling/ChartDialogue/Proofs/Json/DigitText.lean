import ChartDialogue.Json.Reader
import Mathlib.Tactic.IntervalCases
import Mathlib.Tactic.SplitIfs

/-! # Reading digits

A run of digits is read to its end. As long as the number it denotes fits, all digits are absorbed;
the digits that do not fit leave the number no larger than it is.
-/

namespace ChartDialogue

def NoDigitAhead (rest : List Char) : Prop := ∀ character ∈ rest.head?, character.isDigit = false

theorem noDigitAhead_cons {character : Char} (notDigit : character.isDigit = false)
    (rest : List Char) : NoDigitAhead (character :: rest) := by
  intro next ahead
  cases ahead
  exact notDigit

def EndsNumber (rest : List Char) : Prop :=
  ∀ character ∈ rest.head?, character = ',' ∨ character = ']' ∨ character = '\x7d'

theorem EndsNumber.noDigitAhead {rest : List Char} (ends : EndsNumber rest) :
    NoDigitAhead rest := by
  intro character ahead
  rcases ends character ahead with rfl | rfl | rfl <;> decide

/-! ## Values of digits -/

def digitValues (digits : List Char) : List Nat :=
  digits.map fun digit => digit.toNat - '0'.toNat

theorem digitValues_toDigits_ne_nil (number : Nat) : digitValues (Nat.toDigits 10 number) ≠ [] :=
  fun none => Nat.toDigits_ne_nil (List.map_eq_nil_iff.mp none)

theorem isDigit_iff_toNat {character : Char} :
    character.isDigit = true ↔ 48 ≤ character.toNat ∧ character.toNat ≤ 57 := by
  simp only [Char.isDigit, Bool.and_eq_true, decide_eq_true_eq, ge_iff_le,
    UInt32.le_iff_toNat_le]
  rfl

theorem le_iff_toNat_le {left right : Char} : left ≤ right ↔ left.toNat ≤ right.toNat := by
  rw [Char.le_def, UInt32.le_iff_toNat_le]
  rfl

theorem digitValue?_of_isDigit {digit : Char} (isDigit : digit.isDigit = true) :
    digitValue? digit = some (digit.toNat - '0'.toNat) := by
  have codes := isDigit_iff_toNat.mp isDigit
  have inside : '0' ≤ digit ∧ digit ≤ '9' :=
    ⟨le_iff_toNat_le.mpr codes.1, le_iff_toNat_le.mpr codes.2⟩
  have small : digit.toNat - '0'.toNat < 10 := by
    have zero : '0'.toNat = 48 := rfl
    omega
  simp only [digitValue?, Digits.value?, inside, and_self, if_true, Option.filter_some, small,
    decide_true]

theorem digitValue?_of_not_isDigit {character : Char} (notDigit : character.isDigit = false) :
    digitValue? character = none := by
  have outside : ¬ ('0' ≤ character ∧ character ≤ '9') := by
    intro inside
    have codes := And.intro (le_iff_toNat_le.mp inside.1) (le_iff_toNat_le.mp inside.2)
    rw [isDigit_iff_toNat.mpr codes] at notDigit
    cases notDigit
  -- Letters have values too, but none below ten.
  simp only [digitValue?, Digits.value?, outside, if_false]
  split_ifs <;> simp

theorem spanDigits_append : {digits : List Char} → {rest : List Char} →
    (∀ digit ∈ digits, digit.isDigit = true) → NoDigitAhead rest →
      spanDigits (digits ++ rest) = (digitValues digits, rest)
  | [], [], _, _ => rfl
  | [], character :: rest, _, ahead => by
    have none := digitValue?_of_not_isDigit (ahead character rfl)
    simp [spanDigits, none, digitValues]
  | digit :: digits, rest, isDigit, ahead => by
    have value := digitValue?_of_isDigit (isDigit digit List.mem_cons_self)
    have span := spanDigits_append
      (fun other member => isDigit other (List.mem_cons_of_mem digit member)) ahead
    simp [spanDigits, value, span, digitValues]

theorem Cursor.spanDigits_append {digits rest : List Char}
    (isDigit : ∀ digit ∈ digits, digit.isDigit = true) (ahead : NoDigitAhead rest)
    (place : Position) :
    (⟨digits ++ rest, place⟩ : Cursor).spanDigits =
      (digitValues digits, ⟨rest, ⟨place.line, place.column + digits.length⟩⟩) := by
  simp only [Cursor.spanDigits, ChartDialogue.spanDigits_append isDigit ahead, digitValues,
    List.length_map]

/-! ## Absorbing digits -/

theorem le_ofDigitChars (digits : List Char) (word : Nat) :
    word * 10 ^ digits.length ≤ Nat.ofDigitChars 10 digits word := by
  rw [Nat.ofDigitChars_eq_ofDigitChars_zero, Nat.mul_comm]
  exact Nat.le_add_right _ _

theorem absorb_of_lt {limit : Nat} : {digits : List Char} → {word : Nat} →
    Nat.ofDigitChars 10 digits word < limit →
      absorb limit word (digitValues digits) = (Nat.ofDigitChars 10 digits word, [])
  | [], word, _ => by simp [absorb, digitValues]
  | digit :: digits, word, fits => by
    rw [Nat.ofDigitChars_cons, Nat.mul_comm] at fits
    have longer : word * 10 + (digit.toNat - '0'.toNat) < limit := by
      refine Nat.lt_of_le_of_lt ?_ fits
      exact Nat.le_trans (Nat.le_mul_of_pos_right _ (Nat.pow_pos (by decide)))
        (le_ofDigitChars digits _)
    have rest := absorb_of_lt fits
    simp only [digitValues, List.map_cons, absorb, if_pos longer] at rest ⊢
    rw [rest, Nat.ofDigitChars_cons, Nat.mul_comm 10]

/-- What is absorbed is a word, and with a zero for each digit left over it is no larger than the
number that all the digits denote. -/
theorem absorb_bounds {limit : Nat} : (digits : List Char) → {word : Nat} → word < limit →
    (absorb limit word (digitValues digits)).1 < limit ∧
      (absorb limit word (digitValues digits)).2.length ≤ digits.length ∧
      (absorb limit word (digitValues digits)).1 *
          10 ^ (absorb limit word (digitValues digits)).2.length ≤
        Nat.ofDigitChars 10 digits word
  | [], word, fits => by simp [absorb, digitValues, fits]
  | digit :: digits, word, fits => by
    by_cases longer : word * 10 + (digit.toNat - '0'.toNat) < limit
    · rcases absorb_bounds digits longer with ⟨below, count, value⟩
      simp only [digitValues, List.map_cons, absorb, if_pos longer] at below count value ⊢
      rw [Nat.ofDigitChars_cons, Nat.mul_comm 10]
      exact ⟨below, Nat.le_succ_of_le count, value⟩
    · have value := le_ofDigitChars (digit :: digits) word
      simp only [digitValues, List.map_cons, absorb, if_neg longer]
      refine ⟨fits, by simp, ?_⟩
      simpa using value

/-! ## Digits of a number -/

theorem isDigit_toDigits (number : Nat) :
    ∀ digit ∈ Nat.toDigits 10 number, digit.isDigit = true :=
  fun _ member => Nat.isDigit_of_mem_toDigits (by decide) (by decide) member

/-- Whether digits are written as those of a number are: there are some, and only a zero of its own
begins with a zero. -/
def IsNumeral (digits : List Char) : Prop :=
  digits ≠ [] ∧ (∀ digit ∈ digits, digit.isDigit = true) ∧
    ∀ rest, digits = '0' :: rest → rest = []

theorem IsNumeral.digitValues_ne {digits : List Char} (isNumeral : IsNumeral digits)
    {second : Nat} {rest : List Nat} : digitValues digits ≠ 0 :: second :: rest := by
  rcases isNumeral with ⟨_, isDigit, zeroAlone⟩
  intro values
  cases digits with
  | nil => cases values
  | cons first digits =>
    have codes := isDigit_iff_toNat.mp (isDigit first List.mem_cons_self)
    have zero : first.toNat - 48 = 0 := (List.cons.inj values).1
    have isZero : first = '0' := Char.toNat_inj.mp (show first.toNat = 48 by omega)
    rw [zeroAlone digits (by rw [isZero])] at values
    cases (List.cons.inj values).2

theorem isNumeral_of_ne_zero {first : Char} {digits : List Char} (nonzero : first ≠ '0')
    (isDigit : ∀ digit ∈ first :: digits, digit.isDigit = true) : IsNumeral (first :: digits) :=
  ⟨List.cons_ne_nil first digits, isDigit,
    fun _ split => absurd (List.cons.inj split).1 nonzero⟩

theorem ofDigitChars_lt : {digits : List Char} → (word : Nat) →
    (∀ digit ∈ digits, digit.isDigit = true) →
      Nat.ofDigitChars 10 digits word < (word + 1) * 10 ^ digits.length
  | [], word, _ => by simp
  | digit :: digits, word, isDigit => by
    have codes := isDigit_iff_toNat.mp (isDigit digit List.mem_cons_self)
    have zero : '0'.toNat = 48 := rfl
    have rest := ofDigitChars_lt (10 * word + (digit.toNat - '0'.toNat))
      fun other member => isDigit other (List.mem_cons_of_mem digit member)
    have longer : 10 * word + (digit.toNat - '0'.toNat) + 1 ≤ (word + 1) * 10 := by omega
    rw [Nat.ofDigitChars_cons, List.length_cons, Nat.pow_succ, Nat.mul_comm _ 10, ← Nat.mul_assoc]
    exact Nat.lt_of_lt_of_le rest (Nat.mul_le_mul_right _ longer)

theorem ofDigitChars_lt_wordLimit {digits : List Char} (short : digits.length ≤ 16)
    (isDigit : ∀ digit ∈ digits, digit.isDigit = true) :
    Nat.ofDigitChars 10 digits 0 < Word.limit := by
  have below := ofDigitChars_lt 0 isDigit
  have powers : 10 ^ digits.length ≤ 10 ^ 16 := Nat.pow_le_pow_right (by decide) short
  have fits : 10 ^ 16 < Word.limit := by decide
  omega

theorem ten_pow_le_ofDigitChars {first : Char} {digits : List Char} (isDigit : first.isDigit = true)
    (nonzero : first ≠ '0') : 10 ^ digits.length ≤ Nat.ofDigitChars 10 (first :: digits) 0 := by
  have codes := isDigit_iff_toNat.mp isDigit
  have positive : 1 ≤ first.toNat - '0'.toNat := by
    have zero : '0'.toNat = 48 := rfl
    have different : first.toNat ≠ 48 := fun same => nonzero (Char.toNat_inj.mp same)
    omega
  rw [Nat.ofDigitChars_cons, Nat.mul_zero, Nat.zero_add]
  exact Nat.le_trans (Nat.le_mul_of_pos_left _ positive) (le_ofDigitChars digits _)

theorem ne_zero_of_toDigits_eq_cons {number : Nat} : {first : Char} → {rest : List Char} →
    number ≠ 0 → Nat.toDigits 10 number = first :: rest → first ≠ '0' := by
  induction number using Nat.strongRecOn with
  | ind number induction =>
    intro first rest nonzero split
    by_cases single : number < 10
    · rw [Nat.toDigits_of_lt_base single] at split
      cases split
      interval_cases number <;> first | exact absurd rfl nonzero | decide
    · have leading : number / 10 ≠ 0 := by omega
      rw [Nat.toDigits_of_base_le (by decide) (by omega)] at split
      cases front : Nat.toDigits 10 (number / 10) with
      | nil => exact absurd front Nat.toDigits_ne_nil
      | cons other more =>
        rw [front] at split
        cases split
        exact induction (number / 10) (by omega) leading front

theorem isNumeral_toDigits (number : Nat) : IsNumeral (Nat.toDigits 10 number) := by
  refine ⟨Nat.toDigits_ne_nil, isDigit_toDigits number, ?_⟩
  intro rest split
  by_cases zero : number = 0
  · subst zero
    cases split
    rfl
  · exact absurd rfl (ne_zero_of_toDigits_eq_cons zero split)

end ChartDialogue
