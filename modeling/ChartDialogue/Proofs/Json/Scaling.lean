import ChartDialogue.Json.Reader
import ChartDialogue.Proofs.Json.DigitText
import ChartDialogue.Proofs.Number.ShortestValue

/-! # Scaling words

Scaling rounds three times: the word, the power of ten and their product. All three keep the order,
so it is enough to look at the largest word for each power. Below the upper end of the largest
magnitude but one, no product is too large.
-/

namespace ChartDialogue

open Double

def safePower : Nat := 288

/-- The ends of scaling, computed at once: the largest power of ten, the limit of words, the largest
word by the safe power, the shortest decimal of the largest double, zero, and the first power of ten
past all doubles. -/
theorem scaling_ends :
    (ofQuotient? false (Nat.pow 10 largestTenPower) 1).isSome ∧ (ofNat? Word.limit).isSome ∧
      (scaleWord? (Word.limit - 1) safePower).isSome ∧
      (scaleWord? 17976931348623157 292).isSome ∧ ((ofNat? 0).getD Double.zero).isZero ∧
      unitsOf largestMagnitude + unitsOf (largestMagnitude + 1) <
        Nat.pow 10 (largestTenPower + 1) * (2 * one) := by
  decide +kernel

theorem isSome_ofQuotient?_pow {exponent larger : Nat} (le : exponent ≤ larger)
    (isSome : (ofQuotient? false (Nat.pow 10 larger) 1).isSome) :
    (ofQuotient? false (Nat.pow 10 exponent) 1).isSome :=
  (ofQuotient?_mono (Nat.pow_le_pow_right (by decide) le) isSome).1

theorem isSome_tenPower {exponent : Nat} (bounded : exponent ≤ largestTenPower) :
    (ofQuotient? false (Nat.pow 10 exponent) 1).isSome :=
  isSome_ofQuotient?_pow bounded scaling_ends.1

theorem tenPowerDouble_mono {exponent larger : Nat} (le : exponent ≤ larger)
    (bounded : larger ≤ largestTenPower) :
    (tenPowerDouble exponent).units ≤ (tenPowerDouble larger).units :=
  (ofQuotient?_mono (Nat.pow_le_pow_right (by decide) le) (isSome_tenPower bounded)).2

theorem isSome_ofNat?_of_lt {word : Nat} (fits : word < Word.limit) : (ofNat? word).isSome := by
  obtain ⟨_, limit, _⟩ := scaling_ends
  exact (ofQuotient?_mono (Nat.le_of_lt fits) limit).1

theorem scaleWord?_eq_mul? (word : Nat) {exponent : Nat} (bounded : exponent ≤ largestTenPower) :
    scaleWord? word exponent =
      ((ofNat? word).getD zero).mul? (tenPowerDouble exponent) := by
  have notNegative : ¬ (exponent : Int) < 0 := by omega
  simp only [scaleWord?, notNegative, bounded, if_true, if_false, Int.natAbs_natCast]

theorem isSome_scaleWord?_of_le {word larger exponent raised : Nat} (le : word ≤ larger)
    (fits : larger < Word.limit) (raises : exponent ≤ raised) (bounded : raised ≤ largestTenPower)
    (isSome : (scaleWord? larger raised).isSome) : (scaleWord? word exponent).isSome := by
  rw [scaleWord?_eq_mul? larger bounded] at isSome
  rw [scaleWord?_eq_mul? word (Nat.le_trans raises bounded)]
  have words := (ofQuotient?_mono le (isSome_ofNat?_of_lt fits)).2
  have powers := tenPowerDouble_mono raises bounded
  have finite := isSome_ofQuotient?_iff.mp isSome
  refine isSome_ofQuotient?_iff.mpr (Nat.lt_of_le_of_lt ?_ finite)
  exact nearestMagnitude_mono _ (Nat.mul_le_mul_right one (Nat.mul_le_mul words powers))

theorem isSome_scaleWord?_of_safe {word exponent : Nat} (fits : word < Word.limit)
    (safe : exponent ≤ safePower) : (scaleWord? word exponent).isSome := by
  obtain ⟨_, _, largest, _⟩ := scaling_ends
  exact isSome_scaleWord?_of_le (Nat.le_pred_of_lt fits) (by decide) safe (by decide) largest

theorem isSome_scaleWord?_of_nonpos {word : Nat} {exponent : Int} (fits : word < Word.limit)
    (lowers : exponent ≤ 0) : (scaleWord? word exponent).isSome := by
  rcases Int.lt_or_eq_of_le lowers with negative | rfl
  · simp [scaleWord?, negative]
  · exact isSome_scaleWord?_of_safe fits (Nat.zero_le _)

/-- The largest word that a power of ten raises to no more than the upper end of the largest
magnitude but one. -/
def wordBelow (exponent : Nat) : Nat :=
  min (Word.limit - 1)
    ((unitsOf (largestMagnitude - 1) + unitsOf (largestMagnitude - 1 + 1)) /
      (2 * one * Nat.pow 10 exponent))

/-- The powers past the safe one, each with the largest word it may raise. -/
theorem isSome_scaleWord?_wordBelow : ∀ past < largestTenPower - safePower,
    (scaleWord? (wordBelow (safePower + 1 + past)) (safePower + 1 + past : Nat)).isSome := by
  decide +kernel

theorem le_wordBelow {word exponent : Nat} (fits : word < Word.limit)
    (low : (Decimal.mk word exponent).value ≤ upperEnd (largestMagnitude - 1)) :
    word ≤ wordBelow exponent := by
  refine Nat.le_min.mpr ⟨Nat.le_pred_of_lt fits, ?_⟩
  have positive := two_mul_one_pos
  unfold upperEnd Decimal.value at low
  generalize unitsOf (largestMagnitude - 1) + unitsOf (largestMagnitude - 1 + 1) = ends at *
  generalize 2 * one = unit at *
  rw [le_div_iff₀ (Nat.cast_pos.mpr positive), zpow_natCast] at low
  have natural : word * 10 ^ exponent * unit ≤ ends := by exact_mod_cast low
  rw [Nat.pow_eq, Nat.le_div_iff_mul_le (Nat.mul_pos positive (Nat.pow_pos (by decide)))]
  calc word * (unit * 10 ^ exponent)
    _ = word * 10 ^ exponent * unit := by ring
    _ ≤ ends := natural

theorem le_largestTenPower_of_pow_le {exponent : Int}
    (low : (10 : ℚ) ^ exponent ≤ upperEnd largestMagnitude) : exponent ≤ largestTenPower := by
  obtain ⟨_, _, _, _, _, least⟩ := scaling_ends
  have positive := two_mul_one_pos
  unfold upperEnd at low
  generalize unitsOf largestMagnitude + unitsOf (largestMagnitude + 1) = ends at *
  generalize 2 * one = unit at *
  generalize largestTenPower = largest at *
  have ceiling : (ends : ℚ) / unit < 10 ^ ((largest + 1 : Nat) : Int) := by
    rw [div_lt_iff₀ (Nat.cast_pos.mpr positive), zpow_natCast]
    exact_mod_cast least
  have powers := (zpow_lt_zpow_iff_right₀ (by norm_num)).mp (lt_of_le_of_lt low ceiling)
  omega

theorem isSome_scaleWord?_of_value_le {word exponent : Nat} (fits : word < Word.limit)
    (low : (Decimal.mk word exponent).value ≤ upperEnd (largestMagnitude - 1)) :
    (scaleWord? word exponent).isSome := by
  have below := le_wordBelow fits low
  have belowFits : wordBelow exponent < Word.limit :=
    Nat.lt_of_le_of_lt (Nat.min_le_left _ _) (by decide)
  -- Low powers suit every word, those up to the largest were tried one by one, and past that only
  -- zero is low enough.
  by_cases safe : exponent ≤ safePower
  · exact isSome_scaleWord?_of_safe fits safe
  by_cases bounded : exponent ≤ largestTenPower
  · have past := isSome_scaleWord?_wordBelow (exponent - (safePower + 1)) (by omega)
    have split : safePower + 1 + (exponent - (safePower + 1)) = exponent := by omega
    rw [split] at past
    exact isSome_scaleWord?_of_le below belowFits (Nat.le_refl _) bounded past
  · have zero : word = 0 := by
      by_contra nonzero
      have power : (10 : ℚ) ^ (exponent : Int) ≤ (Decimal.mk word exponent).value :=
        le_mul_of_one_le_left (by positivity) (Nat.one_le_cast.mpr (Nat.pos_of_ne_zero nonzero))
      have top := upperEnd_mono (Nat.sub_le largestMagnitude 1)
      have large := le_largestTenPower_of_pow_le (power.trans (low.trans top))
      omega
    subst zero
    have notNegative : ¬ (exponent : Int) < 0 := by omega
    obtain ⟨_, _, _, _, isZero, _⟩ := scaling_ends
    simp [scaleWord?, notNegative, bounded, isZero]

/-! ## Decimals -/

/-- Whether a decimal can be scaled, also when only its first digits fit a word. -/
def Decimal.Scalable (decimal : Decimal) : Prop :=
  ∀ word dropped : Nat, word < Word.limit → word * 10 ^ dropped ≤ decimal.digits →
    (decimal.digits < Word.limit → word = decimal.digits ∧ dropped = 0) →
      (scaleWord? word (decimal.scale + dropped)).isSome

theorem Decimal.scalable_of_value_le {decimal : Decimal}
    (low : decimal.value ≤ upperEnd (largestMagnitude - 1)) : decimal.Scalable := by
  intro word dropped fits below _
  rcases Int.le_total (decimal.scale + dropped) 0 with lowers | raises
  · exact isSome_scaleWord?_of_nonpos fits lowers
  · rcases Int.eq_ofNat_of_zero_le raises with ⟨exponent, exponentIs⟩
    rw [exponentIs]
    refine isSome_scaleWord?_of_value_le fits (le_trans ?_ low)
    have cast : (word : ℚ) * 10 ^ dropped ≤ decimal.digits := by exact_mod_cast below
    calc (Decimal.mk word exponent).value
      _ = word * 10 ^ (decimal.scale + dropped) := by rw [Decimal.value, exponentIs]
      _ = word * 10 ^ dropped * 10 ^ decimal.scale := by
        rw [zpow_add₀ (by norm_num), zpow_natCast]
        ring
      _ ≤ decimal.digits * 10 ^ decimal.scale := by gcongr

/-- The shortest decimal of a double can be scaled. That of the largest double lies past the upper
end of the one below, but it fits a word. -/
theorem Double.scalable_shortest (number : Double) (found : number.shortest .toEven ≠ ⟨0, 0⟩) :
    (number.shortest .toEven).Scalable := by
  have bounded := ((number.shortest_bounded .toEven).resolve_left found).2
  by_cases largest : number.magnitude = largestMagnitude
  · obtain ⟨_, _, _, scaled, _⟩ := scaling_ends
    rw [shortest_of_largest largest]
    intro word dropped _ _ exact
    rcases exact (by decide) with ⟨rfl, rfl⟩
    exact scaled
  · have finite := number.finite
    have below : number.magnitude ≤ largestMagnitude - 1 := by
      simp only [largestMagnitude] at *
      omega
    exact Decimal.scalable_of_value_le (le_trans bounded (upperEnd_mono below))

theorem Double.leading_le_largestTenPower (number : Double) {first : Char} {rest : List Char}
    (found : number.shortest .toEven ≠ ⟨0, 0⟩)
    (split : Nat.toDigits 10 (number.shortest .toEven).digits = first :: rest) :
    (number.shortest .toEven).scale + rest.length ≤ largestTenPower := by
  rcases (number.shortest_bounded .toEven).resolve_left found with ⟨nonzero, bounded⟩
  generalize number.shortest .toEven = decimal at *
  have finite := number.finite
  have top : upperEnd number.magnitude ≤ upperEnd largestMagnitude :=
    upperEnd_mono (by simp only [largestMagnitude]; omega)
  have leading : 10 ^ rest.length ≤ decimal.digits := by
    have isDigit := isDigit_toDigits decimal.digits first (by rw [split]; exact List.mem_cons_self)
    have least : 10 ^ rest.length ≤ Nat.ofDigitChars 10 (first :: rest) 0 :=
      ten_pow_le_ofDigitChars isDigit (ne_zero_of_toDigits_eq_cons nonzero split)
    rw [← split, Nat.ofDigitChars_ten_toDigits] at least
    exact least
  refine le_largestTenPower_of_pow_le (le_trans ?_ (bounded.trans top))
  have cast : (10 : ℚ) ^ rest.length ≤ decimal.digits := by exact_mod_cast leading
  rw [zpow_add₀ (by norm_num), zpow_natCast, mul_comm]
  unfold Decimal.value
  gcongr

end ChartDialogue
