import ChartDialogue.Json.Printer
import ChartDialogue.Proofs.Json.DigitText
import ChartDialogue.Proofs.Json.Scaling

/-! # Reading numbers back

An integer is read back as itself. A double is read back as some double: its shortest text never
goes past what can be scaled.
-/

namespace ChartDialogue

/-! ## The parts of a number -/

section Parts

variable {negative : Bool} {digits rest : List Char} {word : Nat} {scale : Int}

theorem finishDouble_of_isSome {exponent : Int} (isSome : (scaleWord? word exponent).isSome)
    (negative : Bool) (cursor : Cursor) :
    ∃ number, finishDouble negative word exponent cursor = .ok (number, cursor) := by
  rcases Option.isSome_iff_exists.mp isSome with ⟨number, scaled⟩
  exact ⟨_, by rw [finishDouble, scaled]⟩

def readBehindWhole (negative : Bool) (taken : Nat × List Nat) (after : Cursor) :
    Except JsonError (Number × Cursor) :=
  match after.rest with
  | '.' :: _ => readFraction negative taken.1 taken.2.length after.next
  | 'e' :: _ | 'E' :: _ => readExponent negative taken.1 taken.2.length after.next
  | _ =>
    if taken.2.isEmpty then .ok (wholeNumber negative taken.1, after)
    else finishDouble negative taken.1 taken.2.length after

theorem readNumber_append (isNumeral : IsNumeral digits) (ahead : NoDigitAhead rest)
    (place : Position) :
    readNumber negative ⟨digits ++ rest, place⟩ =
      readBehindWhole negative (absorb Word.limit 0 (digitValues digits))
        ⟨rest, ⟨place.line, place.column + digits.length⟩⟩ := by
  unfold readNumber
  rw [Cursor.spanDigits_append isNumeral.2.1 ahead]
  split
  · rename_i values
    have none : digitValues digits = [] := (Prod.mk.inj values).1
    exact absurd (List.map_eq_nil_iff.mp none) isNumeral.1
  · rename_i values
    exact absurd (Prod.mk.inj values).1 isNumeral.digitValues_ne
  · rename_i values
    cases values
    rfl

theorem readFraction_append (negative : Bool) (word : Nat) (scale : Int) (nonempty : digits ≠ [])
    (isDigit : ∀ digit ∈ digits, digit.isDigit = true) (ahead : NoDigitAhead rest)
    (place : Position) :
    ∃ behind, readFraction negative word scale ⟨digits ++ rest, place⟩ =
      readAfterDigits negative (absorb Word.limit word (digitValues digits)).1
        (scale - (digits.length -
          (absorb Word.limit word (digitValues digits)).2.length : Nat)) ⟨rest, behind⟩ := by
  have span := Cursor.spanDigits_append isDigit ahead place
  cases digits with
  | nil => exact absurd rfl nonempty
  | cons first digits =>
    unfold readFraction
    rw [span]
    simp only [digitValues, List.map_cons, List.length_cons, List.length_map]
    exact ⟨_, rfl⟩

theorem readAfterDigits_of_ends (ends : EndsNumber rest) (place : Position) :
    readAfterDigits negative word scale ⟨rest, place⟩ =
      finishDouble negative word scale ⟨rest, place⟩ := by
  unfold readAfterDigits
  split
  · rename_i exponent
    cases exponent
    exact absurd (ends 'e' rfl) (by decide)
  · rename_i exponent
    cases exponent
    exact absurd (ends 'E' rfl) (by decide)
  · rfl

theorem readNumber_whole (isNumeral : IsNumeral digits) (ends : EndsNumber rest)
    (fits : Nat.ofDigitChars 10 digits 0 < Word.limit) (place : Position) :
    ∃ behind, readNumber negative ⟨digits ++ rest, place⟩ =
      .ok (wholeNumber negative (Nat.ofDigitChars 10 digits 0), ⟨rest, behind⟩) := by
  rw [readNumber_append isNumeral ends.noDigitAhead, absorb_of_lt fits]
  unfold readBehindWhole
  split
  · rename_i point
    cases point
    exact absurd (ends '.' rfl) (by decide)
  · rename_i exponent
    cases exponent
    exact absurd (ends 'e' rfl) (by decide)
  · rename_i exponent
    cases exponent
    exact absurd (ends 'E' rfl) (by decide)
  · exact ⟨_, rfl⟩

theorem readExponent_plus {exponent : Nat} (ends : EndsNumber rest)
    (fits : exponent < exponentLimit) (place : Position) :
    ∃ behind, readExponent negative word scale
        ⟨'+' :: (Nat.toDigits 10 exponent ++ rest), place⟩ =
      finishDouble negative word (scale + exponent) ⟨rest, behind⟩ := by
  have absorbed : absorb exponentLimit 0 (digitValues (Nat.toDigits 10 exponent)) =
      (exponent, []) := by
    rw [absorb_of_lt (by rw [Nat.ofDigitChars_ten_toDigits]; exact fits),
      Nat.ofDigitChars_ten_toDigits]
  unfold readExponent
  simp only [Cursor.next]
  rw [Cursor.spanDigits_append (isDigit_toDigits exponent) ends.noDigitAhead]
  split
  · rename_i values
    exact absurd (Prod.mk.inj values).1 (digitValues_toDigits_ne_nil exponent)
  · rename_i values
    cases values
    rw [absorbed]
    exact ⟨_, rfl⟩

/-- A negative exponent always leaves a number, which is zero if the exponent is huge. -/
theorem readExponent_minus {exponent : Nat} (ends : EndsNumber rest) (fits : word < Word.limit)
    (lowers : scale ≤ 0) (place : Position) :
    ∃ number behind, readExponent negative word scale
        ⟨'-' :: (Nat.toDigits 10 exponent ++ rest), place⟩ = .ok (number, ⟨rest, behind⟩) := by
  unfold readExponent
  simp only [Cursor.next]
  rw [Cursor.spanDigits_append (isDigit_toDigits exponent) ends.noDigitAhead]
  split
  · rename_i values
    exact absurd (Prod.mk.inj values).1 (digitValues_toDigits_ne_nil exponent)
  · rename_i values
    cases values
    split
    · rename_i raised _
      have nonpos : scale - (raised : Int) ≤ 0 := by omega
      rcases finishDouble_of_isSome (isSome_scaleWord?_of_nonpos fits nonpos) negative _ with
          ⟨number, finished⟩
      exact ⟨number, _, finished⟩
    · rw [if_neg fun huge => huge.2 trivial]
      exact ⟨_, _, rfl⟩

end Parts

/-! ## Doubles -/

section Doubles

variable {negative : Bool} {rest : List Char} {decimal : Decimal}

/-- A whole part of at most sixteen digits and a fraction. The scale is not positive then. -/
theorem readNumber_positional {whole fraction : List Char} (isNumeral : IsNumeral whole)
    (fits : Nat.ofDigitChars 10 whole 0 < Word.limit) (nonempty : fraction ≠ [])
    (isDigit : ∀ digit ∈ fraction, digit.isDigit = true) (ends : EndsNumber rest)
    (place : Position) :
    ∃ number behind, readNumber negative ⟨whole ++ '.' :: (fraction ++ rest), place⟩ =
      .ok (number, ⟨rest, behind⟩) := by
  rw [readNumber_append isNumeral (noDigitAhead_cons rfl _), absorb_of_lt fits]
  rcases readFraction_append negative (Nat.ofDigitChars 10 whole 0) 0 nonempty
    isDigit ends.noDigitAhead (Position.after ⟨place.line, place.column + whole.length⟩ '.') with
      ⟨behind, read⟩
  rcases absorb_bounds fraction fits with ⟨below, _, _⟩
  have nonpos : (0 : Int) - (fraction.length -
      (absorb Word.limit (Nat.ofDigitChars 10 whole 0) (digitValues fraction)).2.length : Nat) ≤
        0 := by
    omega
  rcases finishDouble_of_isSome
    (isSome_scaleWord?_of_nonpos below nonpos) negative ⟨rest, behind⟩ with ⟨number, finished⟩
  refine ⟨number, behind, ?_⟩
  rw [← finished, ← readAfterDigits_of_ends ends, ← read]
  rfl

/-- The digits of a number with an exponent: a point behind the first one, if there are others. -/
def mantissa : List Char → List Char
  | first :: second :: rest => first :: '.' :: second :: rest
  | short => short

/-- The digits before an exponent are absorbed as far as they fit; the scale makes up for the
point. -/
theorem readNumber_mantissa (negative : Bool) (rest : List Char) {first : Char}
    {fraction : List Char}
    (isDigit : ∀ digit ∈ first :: fraction, digit.isDigit = true) (place : Position) :
    ∃ word dropped behind, word < Word.limit ∧ dropped ≤ fraction.length ∧
      word * 10 ^ dropped ≤ Nat.ofDigitChars 10 (first :: fraction) 0 ∧
      (Nat.ofDigitChars 10 (first :: fraction) 0 < Word.limit →
        word = Nat.ofDigitChars 10 (first :: fraction) 0 ∧ dropped = 0) ∧
      readNumber negative ⟨mantissa (first :: fraction) ++ 'e' :: rest, place⟩ =
        readExponent negative word (-(fraction.length - dropped : Nat)) ⟨rest, behind⟩ := by
  have firstDigit := isDigit first List.mem_cons_self
  have codes := isDigit_iff_toNat.mp firstDigit
  have isNumeral : IsNumeral [first] :=
    ⟨by simp, by simpa using firstDigit, fun rest split => (List.cons.inj split).2.symm⟩
  have single : Nat.ofDigitChars 10 [first] 0 < Word.limit := by
    simp only [Nat.ofDigitChars_cons, Nat.ofDigitChars_nil, Word.limit]
    omega
  have behindExponent : NoDigitAhead ('e' :: rest) := noDigitAhead_cons rfl rest
  cases fraction with
  | nil =>
    have read : readNumber negative ⟨[first] ++ 'e' :: rest, place⟩ = _ :=
      readNumber_append isNumeral behindExponent place
    rw [absorb_of_lt single] at read
    exact ⟨_, 0, _, single, Nat.le_refl 0, by simp, fun _ => ⟨rfl, rfl⟩, read⟩
  | cons second fraction =>
    have behindPoint : NoDigitAhead ('.' :: (second :: fraction ++ 'e' :: rest)) :=
      noDigitAhead_cons rfl _
    have fractionDigits : ∀ digit ∈ second :: fraction, digit.isDigit = true :=
      fun digit member => isDigit digit (List.mem_cons_of_mem first member)
    have wholeRead : readNumber negative
        ⟨[first] ++ '.' :: (second :: fraction ++ 'e' :: rest), place⟩ = _ :=
      readNumber_append isNumeral behindPoint place
    rw [absorb_of_lt single] at wholeRead
    rcases readFraction_append negative (Nat.ofDigitChars 10 [first] 0) 0
      (List.cons_ne_nil second fraction) fractionDigits behindExponent
      (Position.after ⟨place.line, place.column + [first].length⟩ '.') with ⟨behind, fractionRead⟩
    rcases absorb_bounds (second :: fraction) single with ⟨below, count, value⟩
    have joined : Nat.ofDigitChars 10 (first :: second :: fraction) 0 =
        Nat.ofDigitChars 10 (second :: fraction) (Nat.ofDigitChars 10 [first] 0) :=
      Nat.ofDigitChars_append (l := [first]) 0
    rw [joined]
    rw [Int.zero_sub] at fractionRead
    refine ⟨_, _, behind.after 'e', below, count, value, ?_, wholeRead.trans fractionRead⟩
    intro fits
    rw [absorb_of_lt fits]
    exact ⟨rfl, rfl⟩

theorem exponent_of_digits {first : Char} {fraction : List Char}
    (split : Nat.toDigits 10 decimal.digits = first :: fraction) :
    decimal.scale + (Nat.toDigits 10 decimal.digits).length - 1 =
      decimal.scale + fraction.length := by
  rw [split, List.length_cons]
  omega

theorem layout_of_exponential {first : Char} {fraction : List Char}
    (split : Nat.toDigits 10 decimal.digits = first :: fraction)
    (outside : decimal.scale + fraction.length < Double.leastPositional ∨
      Double.firstExponential ≤ decimal.scale + fraction.length) :
    Double.layout decimal =
      mantissa (first :: fraction) ++ 'e' ::
        (if decimal.scale + fraction.length < 0 then '-' else '+') ::
          Nat.toDigits 10 (decimal.scale + fraction.length).natAbs := by
  unfold Double.layout
  dsimp only
  rw [exponent_of_digits split, if_pos outside, split]
  cases fraction <;> rfl

theorem readNumber_exponential {first : Char} {fraction : List Char}
    (split : Nat.toDigits 10 decimal.digits = first :: fraction) (scalable : decimal.Scalable)
    (bounded : decimal.scale + fraction.length ≤ largestTenPower) (ends : EndsNumber rest)
    (outside : decimal.scale + fraction.length < Double.leastPositional ∨
      Double.firstExponential ≤ decimal.scale + fraction.length) (place : Position) :
    ∃ number behind, readNumber negative ⟨Double.layout decimal ++ rest, place⟩ =
      .ok (number, ⟨rest, behind⟩) := by
  have isDigit := isDigit_toDigits decimal.digits
  have value : Nat.ofDigitChars 10 (Nat.toDigits 10 decimal.digits) 0 = decimal.digits :=
    Nat.ofDigitChars_ten_toDigits
  rw [layout_of_exponential split outside]
  rw [split] at isDigit value
  rw [List.append_assoc, List.cons_append, List.cons_append]
  rcases readNumber_mantissa negative
      ((if decimal.scale + fraction.length < 0 then '-' else '+') ::
        (Nat.toDigits 10 (decimal.scale + fraction.length).natAbs ++ rest)) isDigit place with
      ⟨word, dropped, behind, fits, count, below, exact, read⟩
  rw [value] at below exact
  rw [read]
  by_cases lowers : decimal.scale + fraction.length < 0
  · rw [if_pos lowers]
    exact readExponent_minus ends fits (by omega) behind
  · have raised : (decimal.scale + fraction.length).natAbs < exponentLimit := by
      simp only [largestTenPower, exponentLimit] at *
      omega
    rcases readExponent_plus ends raised behind with ⟨after, finished⟩
    rw [if_neg lowers, finished]
    have scale : -((fraction.length - dropped : Nat) : Int) +
        ((decimal.scale + fraction.length).natAbs : Int) = decimal.scale + dropped := by
      omega
    rw [scale]
    rcases finishDouble_of_isSome (scalable word dropped fits below exact)
      negative ⟨rest, after⟩ with ⟨number, scaled⟩
    exact ⟨number, after, scaled⟩

theorem layout_of_positional {first : Char} {fraction : List Char}
    (split : Nat.toDigits 10 decimal.digits = first :: fraction) (nonzero : first ≠ '0')
    (inside : ¬ (decimal.scale + fraction.length < Double.leastPositional ∨
      Double.firstExponential ≤ decimal.scale + fraction.length)) :
    ∃ whole behind, Double.layout decimal = whole ++ '.' :: behind ∧ IsNumeral whole ∧
      whole.length ≤ 16 ∧ behind ≠ [] ∧ ∀ digit ∈ behind, digit.isDigit = true := by
  have isDigit := isDigit_toDigits decimal.digits
  unfold Double.layout
  dsimp only
  rw [exponent_of_digits split, if_neg inside]
  rw [split] at isDigit ⊢
  simp only [Double.leastPositional, Double.firstExponential, not_or] at inside
  have zeros : ∀ count, ∀ digit ∈ List.replicate count '0', digit.isDigit = true := by
    intro count digit member
    rw [List.eq_of_mem_replicate member]
    rfl
  by_cases whole : 0 ≤ decimal.scale
  · rw [if_pos whole]
    refine ⟨first :: fraction ++ List.replicate decimal.scale.natAbs '0', ['0'], by simp, ?_, ?_,
      by simp, by simp⟩
    · refine isNumeral_of_ne_zero nonzero fun digit member => ?_
      rcases List.mem_append.mp (by rwa [List.cons_append]) with own | added
      · exact isDigit digit own
      · exact zeros _ digit added
    · simp only [List.length_append, List.length_cons, List.length_replicate]
      omega
  · rw [if_neg whole]
    by_cases point : 0 ≤ decimal.scale + (fraction.length : Int)
    · rw [if_pos point, List.take_succ_cons, List.drop_succ_cons]
      refine ⟨first :: fraction.take (decimal.scale + fraction.length).natAbs,
        fraction.drop (decimal.scale + fraction.length).natAbs, rfl, ?_, ?_, ?_, ?_⟩
      · refine isNumeral_of_ne_zero nonzero fun digit member => ?_
        rcases List.mem_cons.mp member with rfl | taken
        · exact isDigit digit List.mem_cons_self
        · exact isDigit digit (List.mem_cons_of_mem first (List.mem_of_mem_take taken))
      · simp only [List.length_cons, List.length_take]
        omega
      · rw [ne_eq, List.drop_eq_nil_iff]
        omega
      · exact fun digit member =>
          isDigit digit (List.mem_cons_of_mem first (List.mem_of_mem_drop member))
    · rw [if_neg point]
      refine ⟨['0'], _, rfl, isNumeral_toDigits 0, by simp, by simp, ?_⟩
      intro digit member
      rcases List.mem_append.mp member with added | own
      · exact zeros _ digit added
      · exact isDigit digit own

/-- The shortest text of a double is read back as a number. -/
theorem readNumber_shortest {number : Double} (ends : EndsNumber rest) (place : Position) :
    ∃ result behind, readNumber negative
      ⟨Double.layout (number.shortest .toEven) ++ rest, place⟩ = .ok (result, ⟨rest, behind⟩) := by
  by_cases found : number.shortest .toEven = ⟨0, 0⟩
  · rw [found]
    exact readNumber_positional (isNumeral_toDigits 0) (by decide) (List.cons_ne_nil '0' [])
      (by simp) ends place
  · have nonzero := ((number.shortest_bounded .toEven).resolve_left found).1
    cases split : Nat.toDigits 10 (number.shortest .toEven).digits with
    | nil => exact absurd split Nat.toDigits_ne_nil
    | cons first fraction =>
      by_cases outside :
          (number.shortest .toEven).scale + fraction.length < Double.leastPositional ∨
            Double.firstExponential ≤ (number.shortest .toEven).scale + fraction.length
      · exact readNumber_exponential split (number.scalable_shortest found)
          (number.leading_le_largestTenPower found split) ends outside place
      · rcases layout_of_positional split (ne_zero_of_toDigits_eq_cons nonzero split) outside with
            ⟨whole, behind, laidOut, isNumeral, short, nonempty, isDigit⟩
        rw [laidOut, List.append_assoc]
        exact readNumber_positional isNumeral (ofDigitChars_lt_wordLimit short isNumeral.2.1)
          nonempty isDigit ends place

def magnitudeText (number : Double) : List Char :=
  if number.isZero then ['0', '.', '0'] else Double.layout (number.shortest .toEven)

theorem render_eq_magnitudeText (number : Double) :
    number.render = (if number.negative then ['-'] else []) ++ magnitudeText number := by
  unfold Double.render magnitudeText
  by_cases zero : number.isZero = true <;> simp only [zero, if_true, if_false, Bool.false_eq_true]

theorem readNumber_magnitudeText (negative : Bool) (number : Double) (ends : EndsNumber rest)
    (place : Position) :
    ∃ result behind, readNumber negative ⟨magnitudeText number ++ rest, place⟩ =
      .ok (result, ⟨rest, behind⟩) := by
  unfold magnitudeText
  by_cases zero : number.isZero = true
  · rw [if_pos zero]
    exact readNumber_positional (isNumeral_toDigits 0) (by decide) (List.cons_ne_nil '0' [])
      (by simp) ends place
  · rw [if_neg zero]
    exact readNumber_shortest ends place

end Doubles

/-! ## Numbers as values -/

section Values

variable {rest : List Char} {place : Position} {after : Cursor} {result : Number}

theorem isDigit_of_readNumber {negative : Bool} {characters : List Char}
    (read : readNumber negative ⟨characters, place⟩ = .ok (result, after)) :
    ∃ digit more, characters = digit :: more ∧ digit.isDigit = true := by
  cases characters with
  | nil => cases read
  | cons character more =>
    refine ⟨character, more, rfl, ?_⟩
    by_contra notDigit
    have none := digitValue?_of_not_isDigit (Bool.eq_false_iff.mpr notDigit)
    simp [readNumber, Cursor.spanDigits, spanDigits, none, failAt] at read

theorem readValue_of_readNumber {characters : List Char} (steps depth : Nat)
    (read : readNumber false ⟨characters, place⟩ = .ok (result, after)) :
    readValue steps depth ⟨characters, place⟩ = .ok (.number result, after) := by
  rcases isDigit_of_readNumber read with ⟨digit, more, rfl, isDigit⟩
  have notBlank : isJsonBlank digit = false := by
    have codes := isDigit_iff_toNat.mp isDigit
    simp only [isJsonBlank, Bool.or_eq_false_iff, beq_eq_false_iff_ne]
    refine ⟨⟨⟨?_, ?_⟩, ?_⟩, ?_⟩ <;> rintro rfl <;> exact absurd codes (by decide)
  unfold readValue
  simp only [Cursor.skipBlanks, skipBlanksFrom, notBlank, Bool.false_eq_true, if_false]
  split
  · rename_i same
    cases same
  all_goals try (rename_i same; cases same; exact absurd isDigit (by decide))
  rename_i same
  cases same
  rw [if_pos isDigit, read]
  rfl

theorem readValue_minus {characters : List Char} (steps depth : Nat)
    (read : readNumber true ⟨characters, place.after '-'⟩ = .ok (result, after)) :
    readValue steps depth ⟨'-' :: characters, place⟩ = .ok (.number result, after) := by
  have skipped : (⟨'-' :: characters, place⟩ : Cursor).skipBlanks =
      ⟨'-' :: characters, place⟩ := rfl
  unfold readValue
  simp only [skipped, Cursor.next]
  rw [read]
  rfl

theorem ofInt?_value (word : WordInteger) : WordInteger.ofInt? word.value = some word := by
  rw [WordInteger.ofInt?, dif_pos ⟨word.low, word.high⟩]

theorem wholeNumber_of_ofInt? {negative : Bool} {word : Nat} {integer : WordInteger}
    (value : WordInteger.ofInt? (if negative then -(word : Int) else word) = some integer)
    (notMinusZero : ¬ (negative = true ∧ word = 0)) :
    wholeNumber negative word = .integer integer := by
  unfold wholeNumber
  simp only [value]
  rw [if_neg notMinusZero]

theorem readValue_integer (steps depth : Nat) (word : WordInteger) (ends : EndsNumber rest)
    (place : Position) :
    ∃ behind, readValue steps depth ⟨renderInteger word.value ++ rest, place⟩ =
      .ok (.number (.integer word), ⟨rest, behind⟩) := by
  have low := word.low
  have high := word.high
  have fits : Nat.ofDigitChars 10 (Nat.toDigits 10 word.value.natAbs) 0 < Word.limit := by
    rw [Nat.ofDigitChars_ten_toDigits]
    simp only [Word.signedLimit, Word.limit] at *
    omega
  have isNumeral := isNumeral_toDigits word.value.natAbs
  have same : ∀ negative : Bool, (negative = true ↔ word.value < 0) →
      wholeNumber negative word.value.natAbs = .integer word := by
    intro negative sign
    have value : (if negative then -(word.value.natAbs : Int) else word.value.natAbs) =
        word.value := by
      by_cases below : word.value < 0
      · rw [if_pos (sign.mpr below)]
        omega
      · rw [if_neg (mt sign.mp below)]
        omega
    refine wholeNumber_of_ofInt? (by rw [value, ofInt?_value]) ?_
    rintro ⟨isNegative, zero⟩
    have below := sign.mp isNegative
    omega
  unfold renderInteger
  by_cases negative : word.value < 0
  · rcases readNumber_whole isNumeral ends fits (place.after '-') with ⟨behind, read⟩
    rw [Nat.ofDigitChars_ten_toDigits, same true (by simpa using negative)] at read
    rw [if_pos negative]
    exact ⟨behind, readValue_minus steps depth read⟩
  · rcases readNumber_whole isNumeral ends fits place with ⟨behind, read⟩
    rw [Nat.ofDigitChars_ten_toDigits, same false (by simpa using negative)] at read
    rw [if_neg negative]
    exact ⟨behind, readValue_of_readNumber steps depth read⟩

theorem readValue_double (steps depth : Nat) (number : Double) (ends : EndsNumber rest)
    (place : Position) :
    ∃ result behind, readValue steps depth ⟨number.render ++ rest, place⟩ =
      .ok (.number result, ⟨rest, behind⟩) := by
  rw [render_eq_magnitudeText]
  cases number.negative with
  | true =>
    rcases readNumber_magnitudeText true number ends (place.after '-') with ⟨result, behind, read⟩
    exact ⟨result, behind, readValue_minus steps depth read⟩
  | false =>
    rcases readNumber_magnitudeText false number ends place with ⟨result, behind, read⟩
    exact ⟨result, behind, readValue_of_readNumber steps depth read⟩

end Values

/-! ## Line feeds -/

theorem lineFeed_notMem_of_isDigit {digits : List Char}
    (isDigit : ∀ digit ∈ digits, digit.isDigit = true) : '\n' ∉ digits :=
  fun member => absurd (isDigit '\n' member) (by decide)

theorem lineFeed_notMem_toDigits (number : Nat) : '\n' ∉ Nat.toDigits 10 number :=
  lineFeed_notMem_of_isDigit (isDigit_toDigits number)

theorem lineFeed_notMem_layout (decimal : Decimal) : '\n' ∉ Double.layout decimal := by
  have isDigit := lineFeed_notMem_toDigits decimal.digits
  unfold Double.layout
  dsimp only
  generalize Nat.toDigits 10 decimal.digits = digits at *
  have taken : ∀ count, '\n' ∉ digits.take count := fun _ member =>
    isDigit (List.mem_of_mem_take member)
  have dropped : ∀ count, '\n' ∉ digits.drop count := fun _ member =>
    isDigit (List.mem_of_mem_drop member)
  split_ifs with outside lowers whole point
  · rcases digits with _ | ⟨first, _ | ⟨second, more⟩⟩ <;>
      simp_all [lineFeed_notMem_toDigits]
  · rcases digits with _ | ⟨first, _ | ⟨second, more⟩⟩ <;>
      simp_all [lineFeed_notMem_toDigits]
  · simp [isDigit]
  · simp [taken, dropped]
  · simp [isDigit]

theorem lineFeed_notMem_magnitudeText (number : Double) : '\n' ∉ magnitudeText number := by
  unfold magnitudeText
  by_cases zero : number.isZero = true
  · rw [if_pos zero]
    decide
  · rw [if_neg zero]
    exact lineFeed_notMem_layout _

theorem lineFeed_notMem_render_number (number : Number) : '\n' ∉ number.render := by
  cases number with
  | integer word =>
    rw [Number.render, renderInteger]
    split_ifs <;> simp [lineFeed_notMem_toDigits]
  | double double =>
    have magnitude := lineFeed_notMem_magnitudeText double
    rw [Number.render, render_eq_magnitudeText]
    cases double.negative <;> simpa using magnitude

end ChartDialogue
