import ChartDialogue.Number.Double
import Mathlib.Order.Monotone.Basic

/-! # Rounding keeps the order

The value of a magnitude grows with it, and a larger quotient never rounds to a smaller double. So
a quotient has a double whenever a larger one has.
-/

namespace ChartDialogue.Double

/-! ## Values of magnitudes -/

theorem unitsOf_of_div_eq_zero {magnitude : Nat} (quotient : magnitude / fractionCount = 0) :
    unitsOf magnitude = magnitude := by
  rw [unitsOf, quotient]

theorem unitsOf_of_div_eq_succ {magnitude exponent : Nat}
    (quotient : magnitude / fractionCount = exponent + 1) :
    unitsOf magnitude = (fractionCount + magnitude % fractionCount) * Nat.pow 2 exponent := by
  rw [unitsOf, quotient]

theorem unitsOf_le_succ (magnitude : Nat) : unitsOf magnitude ≤ unitsOf (magnitude + 1) := by
  by_cases carries : magnitude % fractionCount + 1 = fractionCount
  · -- The next magnitude is the first of a binade.
    have first : (magnitude + 1) % fractionCount = 0 := by
      simp only [fractionCount] at *; omega
    cases quotient : magnitude / fractionCount with
    | zero =>
      have next : (magnitude + 1) / fractionCount = 0 + 1 := by
        simp only [fractionCount] at *; omega
      rw [unitsOf_of_div_eq_zero quotient, unitsOf_of_div_eq_succ next, first]
      simp only [fractionCount] at *
      simp only [Nat.pow_eq, Nat.pow_zero]
      omega
    | succ exponent =>
      have next : (magnitude + 1) / fractionCount = exponent + 1 + 1 := by
        simp only [fractionCount] at *; omega
      rw [unitsOf_of_div_eq_succ quotient, unitsOf_of_div_eq_succ next, first]
      have doubled : Nat.pow 2 (exponent + 1) = 2 * Nat.pow 2 exponent := by
        simp only [Nat.pow_eq, Nat.pow_succ]; omega
      rw [doubled, ← Nat.mul_assoc]
      exact Nat.mul_le_mul_right _ (by omega)
  · have next : (magnitude + 1) / fractionCount = magnitude / fractionCount := by
      simp only [fractionCount] at *; omega
    have fraction : (magnitude + 1) % fractionCount = magnitude % fractionCount + 1 := by
      simp only [fractionCount] at *; omega
    cases quotient : magnitude / fractionCount with
    | zero =>
      rw [unitsOf_of_div_eq_zero quotient, unitsOf_of_div_eq_zero (next.trans quotient)]
      exact Nat.le_succ magnitude
    | succ exponent =>
      rw [unitsOf_of_div_eq_succ quotient, unitsOf_of_div_eq_succ (next.trans quotient), fraction]
      exact Nat.mul_le_mul_right _ (by omega)

theorem unitsOf_mono : Monotone unitsOf := monotone_nat_of_le_succ unitsOf_le_succ

/-! ## Rounded quotients -/

theorem div_le_roundQuotient (numerator denominator : Nat) :
    numerator / denominator ≤ roundQuotient numerator denominator := by
  unfold roundQuotient
  dsimp only
  split_ifs <;> omega

theorem roundQuotient_le_succ (numerator denominator : Nat) :
    roundQuotient numerator denominator ≤ numerator / denominator + 1 := by
  unfold roundQuotient
  dsimp only
  split_ifs <;> omega

theorem roundQuotient_mono (denominator : Nat) :
    Monotone fun numerator => roundQuotient numerator denominator := by
  intro numerator larger le
  have quotients : numerator / denominator ≤ larger / denominator := Nat.div_le_div_right le
  rcases Nat.eq_or_lt_of_le quotients with same | less
  · -- Equal quotients leave remainders in the same order.
    have split := Nat.div_add_mod numerator denominator
    have largerSplit := Nat.div_add_mod larger denominator
    rw [same] at split
    have remainders : numerator % denominator ≤ larger % denominator := by omega
    simp only [roundQuotient, same]
    split_ifs <;> omega
  · calc roundQuotient numerator denominator
      _ ≤ numerator / denominator + 1 := roundQuotient_le_succ numerator denominator
      _ ≤ larger / denominator := less
      _ ≤ roundQuotient larger denominator := div_le_roundQuotient larger denominator

theorem log2_mono : Monotone Nat.log2 := by
  intro number larger le
  by_cases zero : number = 0
  · simp [zero]
  · have largerNotZero : larger ≠ 0 := by omega
    exact (Nat.le_log2 largerNotZero).mpr (Nat.le_trans (Nat.log2_self_le zero) le)

theorem roundQuotient_le_of_shift {numerator denominator shift : Nat}
    (covers : Nat.log2 (numerator / denominator) - 52 ≤ shift) :
    roundQuotient numerator (denominator * Nat.pow 2 shift) ≤ fractionCount + fractionCount := by
  have below : numerator / denominator < 2 ^ (53 + shift) := by
    refine Nat.lt_of_lt_of_le Nat.lt_log2_self (Nat.pow_le_pow_right (by decide) ?_)
    omega
  have quotient : numerator / (denominator * Nat.pow 2 shift) < 2 ^ 53 := by
    rw [← Nat.div_div_eq_div_mul]
    refine Nat.div_lt_of_lt_mul ?_
    rw [Nat.pow_eq, ← Nat.pow_add, Nat.add_comm shift]
    exact below
  have rounded := roundQuotient_le_succ numerator (denominator * Nat.pow 2 shift)
  simp only [fractionCount]
  omega

theorem le_roundQuotient_of_shift {numerator denominator shift : Nat} (shifted : shift ≠ 0)
    (shiftIs : Nat.log2 (numerator / denominator) - 52 = shift) :
    fractionCount ≤ roundQuotient numerator (denominator * Nat.pow 2 shift) := by
  have notZero : numerator / denominator ≠ 0 := by
    intro zero
    rw [zero, Nat.log2_zero] at shiftIs
    omega
  have above : 2 ^ (52 + shift) ≤ numerator / denominator := by
    refine Nat.le_trans (Nat.pow_le_pow_right (by decide) ?_) (Nat.log2_self_le notZero)
    omega
  have quotient : 2 ^ 52 ≤ numerator / (denominator * Nat.pow 2 shift) := by
    rw [← Nat.div_div_eq_div_mul, Nat.pow_eq, Nat.le_div_iff_mul_le (Nat.two_pow_pos shift),
      ← Nat.pow_add]
    exact above
  exact Nat.le_trans quotient (div_le_roundQuotient _ _)

theorem nearestMagnitude_mono (denominator : Nat) :
    Monotone fun numerator => nearestMagnitude numerator denominator := by
  intro numerator larger le
  have shifts : Nat.log2 (numerator / denominator) - 52 ≤ Nat.log2 (larger / denominator) - 52 :=
    Nat.sub_le_sub_right (log2_mono (Nat.div_le_div_right le)) 52
  simp only [nearestMagnitude]
  generalize low : Nat.log2 (numerator / denominator) - 52 = shift at *
  generalize high : Nat.log2 (larger / denominator) - 52 = largerShift at *
  rcases Nat.eq_or_lt_of_le shifts with same | less
  · subst same
    exact Nat.add_le_add_left (roundQuotient_mono _ le) _
  · have below := roundQuotient_le_of_shift (Nat.le_of_eq low)
    have above := le_roundQuotient_of_shift (by omega) high
    have binades : (shift + 1) * fractionCount ≤ largerShift * fractionCount :=
      Nat.mul_le_mul_right _ less
    rw [Nat.succ_mul] at binades
    omega

/-! ## Doubles of quotients -/

theorem isSome_ofQuotient?_iff {negative : Bool} {numerator denominator : Nat} :
    (ofQuotient? negative numerator denominator).isSome ↔
      nearestMagnitude (numerator * one) denominator < magnitudeBound := by
  unfold ofQuotient?
  dsimp only
  split <;> simp_all

theorem units_of_isSome_ofQuotient? {negative : Bool} {numerator denominator : Nat}
    (isSome : (ofQuotient? negative numerator denominator).isSome) :
    ((ofQuotient? negative numerator denominator).getD zero).units =
      unitsOf (nearestMagnitude (numerator * one) denominator) := by
  have finite := isSome_ofQuotient?_iff.mp isSome
  simp [ofQuotient?, finite, units]

theorem ofQuotient?_mono {negative : Bool} {numerator larger denominator : Nat}
    (le : numerator ≤ larger) (isSome : (ofQuotient? negative larger denominator).isSome) :
    (ofQuotient? negative numerator denominator).isSome ∧
      ((ofQuotient? negative numerator denominator).getD zero).units ≤
        ((ofQuotient? negative larger denominator).getD zero).units := by
  have magnitudes := nearestMagnitude_mono denominator (Nat.mul_le_mul_right one le)
  have finite := isSome_ofQuotient?_iff.mp isSome
  have smaller : (ofQuotient? negative numerator denominator).isSome :=
    isSome_ofQuotient?_iff.mpr (Nat.lt_of_le_of_lt magnitudes finite)
  rw [units_of_isSome_ofQuotient? isSome, units_of_isSome_ofQuotient? smaller]
  exact ⟨smaller, unitsOf_mono magnitudes⟩

end ChartDialogue.Double
