import ChartDialogue.Number.Shortest
import ChartDialogue.Proofs.Number.Rounding
import Mathlib.Algebra.Order.Field.Power
import Mathlib.Algebra.Order.Field.Rat
import Mathlib.Tactic.FieldSimp
import Mathlib.Tactic.Positivity
import Mathlib.Tactic.Ring

/-! # The value of the shortest decimal

The shortest decimal of a double lies no higher than halfway to the next double.
-/

namespace ChartDialogue

def Decimal.value (decimal : Decimal) : ℚ := decimal.digits * 10 ^ decimal.scale

namespace Double

theorem value_strip : (fuel : Nat) → (decimal : Decimal) →
    (Decimal.strip fuel decimal).value = decimal.value
  | 0, _ => rfl
  | fuel + 1, decimal => by
    rw [Decimal.strip]
    split
    · rename_i zeros
      rw [value_strip fuel]
      have split : decimal.digits = decimal.digits / 10 * 10 := by omega
      have scaled : (10 : ℚ) ^ (decimal.scale + 1) = 10 ^ decimal.scale * 10 :=
        zpow_add_one₀ (by norm_num) decimal.scale
      simp only [Decimal.value, scaled]
      conv_rhs => rw [split]
      push_cast
      ring
    · rfl

theorem strip_digits_ne_zero : (fuel : Nat) → {decimal : Decimal} →
    decimal.digits ≠ 0 → (Decimal.strip fuel decimal).digits ≠ 0
  | 0, _, nonzero => nonzero
  | fuel + 1, decimal, nonzero => by
    rw [Decimal.strip]
    split
    · exact strip_digits_ne_zero fuel (by simp only; omega)
    · exact nonzero

def upperEnd (magnitude : Nat) : ℚ :=
  ((unitsOf magnitude + unitsOf (magnitude + 1) : Nat) : ℚ) / ((2 * one : Nat) : ℚ)

theorem two_mul_one_pos : 0 < 2 * one := by decide +kernel

theorem upperEnd_mono : Monotone upperEnd := by
  intro magnitude larger le
  have values := Nat.add_le_add (unitsOf_mono le) (unitsOf_mono (Nat.succ_le_succ le))
  exact div_le_div_of_nonneg_right (Nat.cast_le.mpr values) (Nat.cast_nonneg _)

theorem tenPower_value (exponent : Int) :
    ((tenPower exponent).1 : ℚ) = 10 ^ exponent * (tenPower exponent).2 ∧
      0 < (tenPower exponent).2 := by
  unfold tenPower
  split
  · rename_i lowers
    have power : (10 : ℚ) ^ exponent * 10 ^ exponent.natAbs = 1 := by
      rw [← zpow_natCast, ← zpow_add₀ (by norm_num)]
      have cancels : exponent + exponent.natAbs = 0 := by omega
      rw [cancels, zpow_zero]
    refine ⟨?_, Nat.pow_pos (by decide)⟩
    simp only [Nat.pow_eq]
    push_cast
    exact power.symm
  · rename_i raises
    have natural : ((exponent.natAbs : Nat) : Int) = exponent := by omega
    refine ⟨?_, Nat.one_pos⟩
    simp only [Nat.pow_eq]
    push_cast
    rw [← zpow_natCast, natural, mul_one]

theorem value_of_gridPoint? {tie : TieRule} {magnitude point : Nat} {scale : Int}
    (found : gridPoint? tie magnitude scale = some point) :
    (Decimal.mk point scale).value ≤ upperEnd magnitude := by
  rcases tenPower_value scale with ⟨times, positive⟩
  have below : point * (2 * one * (tenPower scale).1) ≤
      (unitsOf magnitude + unitsOf (magnitude + 1)) * (tenPower scale).2 := by
    unfold gridPoint? at found
    dsimp only at found
    generalize 2 * one * (tenPower scale).1 = step at *
    generalize 2 * unitsOf magnitude * (tenPower scale).2 / step = lower at *
    -- Whichever neighbour is taken has passed the test on both ends.
    split at found
    · cases found
    · rename_i inside _
      cases found
      split_ifs at inside <;> simp at inside <;> omega
    · rename_i inside
      cases found
      split_ifs at inside <;> simp at inside <;> omega
    · rename_i insideLower insideUpper
      split_ifs at found insideLower insideUpper <;> cases found <;>
        simp at insideLower insideUpper <;> omega
  have onePositive : (0 : ℚ) < ((2 * one : Nat) : ℚ) := Nat.cast_pos.mpr two_mul_one_pos
  have partsPositive : (0 : ℚ) < (tenPower scale).2 := by exact_mod_cast positive
  have cast : (point : ℚ) * (((2 * one : Nat) : ℚ) * (tenPower scale).1) ≤
      ((unitsOf magnitude + unitsOf (magnitude + 1) : Nat) : ℚ) * (tenPower scale).2 := by
    exact_mod_cast below
  rw [times] at cast
  unfold Decimal.value upperEnd
  rw [le_div_iff₀ onePositive]
  refine le_of_mul_le_mul_right ?_ partsPositive
  calc _ = (point : ℚ) * (((2 * one : Nat) : ℚ) * (10 ^ scale * (tenPower scale).2)) := by ring
    _ ≤ _ := cast

theorem findDecimal?_bounded {tie : TieRule} {magnitude : Nat} {leading : Int} {decimal : Decimal}
    (found : findDecimal? tie magnitude leading = some decimal) :
    decimal.digits ≠ 0 ∧ decimal.value ≤ upperEnd magnitude := by
  rcases List.exists_of_findSome?_eq_some found with ⟨dropped, _, atScale⟩
  rcases Option.bind_eq_some_iff.mp atScale with ⟨digits, point, kept⟩
  split at kept
  · cases kept
  · rename_i nonzero
    cases kept
    exact ⟨nonzero, value_of_gridPoint? point⟩

/-- The shortest decimal is not zero and lies no higher than the upper end, unless the search for it
has no result at all. -/
theorem shortest_bounded (tie : TieRule) (number : Double) :
    number.shortest tie = ⟨0, 0⟩ ∨
      (number.shortest tie).digits ≠ 0 ∧
        (number.shortest tie).value ≤ upperEnd number.magnitude := by
  unfold shortest
  cases found : findDecimal? tie number.magnitude (leadingExponent number.units one) with
  | none => exact .inl rfl
  | some decimal =>
    rcases findDecimal?_bounded found with ⟨nonzero, bounded⟩
    refine .inr ⟨strip_digits_ne_zero digitLimit nonzero, ?_⟩
    rw [Option.map_some, Option.getD_some, value_strip]
    exact bounded

/-- The largest magnitude, the only one whose upper end is not a double's. -/
def largestMagnitude : Nat := magnitudeBound - 1

theorem shortest_of_largest {number : Double} (largest : number.magnitude = largestMagnitude) :
    number.shortest .toEven = ⟨17976931348623157, 292⟩ := by
  have closed : ((findDecimal? .toEven largestMagnitude
      (leadingExponent (unitsOf largestMagnitude) one)).map
        (Decimal.strip digitLimit)).getD ⟨0, 0⟩ = ⟨17976931348623157, 292⟩ := by decide +kernel
  rw [shortest, units, largest, closed]

end Double

end ChartDialogue
