import ChartDialogue.Json.TypedReader
import ChartDialogue.Proofs.Json.NumberText
import ChartDialogue.Proofs.Json.StringText

/-! # Reading compact text back

Compact text is read back exactly when it does not nest too deep. What comes back is the value
itself if there are no doubles in it; a double may come back as another one.
-/

namespace ChartDialogue

variable {rest : List Char}

def Json.Whole (value : Json) : Prop := ∀ number, ¬ Json.Part (.number (.double number)) value

/-! ## How compact text begins -/

theorem isDigit_render_double (number : Double) :
    ∃ first more, number.render = first :: more ∧ (first = '-' ∨ first.isDigit = true) := by
  rw [render_eq_magnitudeText]
  cases number.negative with
  | true => exact ⟨'-', _, rfl, .inl rfl⟩
  | false =>
    have nothing : EndsNumber [] := by simp [EndsNumber]
    rcases readNumber_magnitudeText false number nothing Position.start with ⟨_, _, read⟩
    rw [List.append_nil] at read
    rcases isDigit_of_readNumber read with ⟨digit, more, text, isDigit⟩
    exact ⟨digit, more, text, .inr isDigit⟩

theorem isDigit_render_integer (value : Int) :
    ∃ first more, renderInteger value = first :: more ∧ (first = '-' ∨ first.isDigit = true) := by
  unfold renderInteger
  split
  · exact ⟨_, _, rfl, .inl rfl⟩
  · cases digits : Nat.toDigits 10 value.natAbs with
    | nil => exact absurd digits Nat.toDigits_ne_nil
    | cons first more =>
      exact ⟨first, more, rfl, .inr (isDigit_toDigits _ first (by rw [digits]; simp))⟩

theorem notBlank_of_isDigit {character : Char} (isDigit : character.isDigit = true) :
    isJsonBlank character = false ∧ character ≠ ']' := by
  have codes := isDigit_iff_toNat.mp isDigit
  simp only [isJsonBlank, Bool.or_eq_false_iff, beq_eq_false_iff_ne]
  refine ⟨⟨⟨⟨?_, ?_⟩, ?_⟩, ?_⟩, ?_⟩ <;> rintro rfl <;> exact absurd codes (by decide)

theorem Json.render_eq_cons (value : Json) :
    ∃ first more, value.render = first :: more ∧ isJsonBlank first = false ∧ first ≠ ']' := by
  have numeric : ∀ text : List Char,
      (∃ first more, text = first :: more ∧ (first = '-' ∨ first.isDigit = true)) →
        ∃ first more, text = first :: more ∧ isJsonBlank first = false ∧ first ≠ ']' := by
    rintro text ⟨first, more, split, rfl | isDigit⟩
    · exact ⟨'-', more, split, by decide, by decide⟩
    · exact ⟨first, more, split, notBlank_of_isDigit isDigit⟩
  match value with
  | .null | .bool true | .bool false | .string _ | .array [] | .array (_ :: _) | .object _ =>
    rw [Json.render]
    exact ⟨_, _, rfl, by decide, by decide⟩
  | .number (.integer word) => exact numeric _ (isDigit_render_integer word.value)
  | .number (.double double) => exact numeric _ (isDigit_render_double double)

theorem skipBlanks_cons {first : Char} {more : List Char} (notBlank : isJsonBlank first = false)
    (place : Position) : (⟨first :: more, place⟩ : Cursor).skipBlanks = ⟨first :: more, place⟩ := by
  simp [Cursor.skipBlanks, skipBlanksFrom, notBlank]

/-! ## Steps of the loops -/

section Loops

variable {α : Type} {element : Cursor → Except JsonError (α × Cursor)} {steps : Nat}
  {reversed : List α} {first : Char} {more : List Char}

theorem readElements_first (notBlank : isJsonBlank first = false) (notClosing : first ≠ ']')
    (place : Position) :
    readElements element (steps + 1) true reversed ⟨first :: more, place⟩ =
      element ⟨first :: more, place⟩ >>= fun read =>
        readElements element steps false (read.1 :: reversed) read.2 := by
  rw [readElements, skipBlanks_cons notBlank]
  dsimp only
  split
  · rename_i same
    cases same
  · rename_i same
    cases same
    exact absurd rfl notClosing
  · rename_i same
    cases same
    rfl

theorem readElements_comma (notBlank : isJsonBlank first = false) (notClosing : first ≠ ']')
    (place : Position) :
    readElements element (steps + 1) false reversed ⟨',' :: first :: more, place⟩ =
      element ⟨first :: more, place.after ','⟩ >>= fun read =>
        readElements element steps false (read.1 :: reversed) read.2 := by
  rw [readElements, skipBlanks_cons (by decide)]
  dsimp only [Cursor.next]
  rw [skipBlanks_cons notBlank]
  dsimp only
  split
  · rename_i same
    cases same
  · rename_i same
    cases same
  · rename_i same
    cases same
    rw [if_neg Bool.false_ne_true, if_pos rfl]
    split
    · rename_i same
      cases same
    · rename_i same
      cases same
      exact absurd rfl notClosing
    · rfl

end Loops

theorem readMembers_key (reader : Cursor → Except JsonError (Json × Cursor))
    (members : Members none) {steps : Nat} {first : Bool} {cursor : Cursor} {key : String}
    {place : Position} {tail : List Char} (enough : key.toList.length < steps)
    (found : findKey first cursor =
      .ok (true, ⟨renderStringBody key.toList ++ ':' :: tail, place⟩)) :
    ∃ behind, readMembers reader (steps + 1) first members cursor =
      reader ⟨tail, behind⟩ >>= fun read =>
        readMembers reader steps false (members.insert key (above_none key) read.1) read.2 := by
  rcases readString_render (':' :: tail) enough place with ⟨colon, keyRead⟩
  refine ⟨colon.after ':', ?_⟩
  rw [readMembers, found]
  simp only [bind, Except.bind]
  rw [keyRead]
  rfl

/-! ## Values that are read back -/

theorem readValue_quote (steps depth : Nat) (more : List Char) (place : Position) :
    readValue steps depth ⟨'"' :: more, place⟩ =
      readString steps ⟨more, place.after '"'⟩ >>= fun read => .ok (.string read.1, read.2) := by
  rw [readValue.eq_def, skipBlanks_cons (by decide)]
  rfl

theorem readValue_bracket (steps depth : Nat) (more : List Char) (place : Position) :
    readValue steps (depth + 1) ⟨'[' :: more, place⟩ =
      readElements (readValue steps depth) steps true [] ⟨more, place.after '['⟩ >>=
        fun read => .ok (.array read.1, read.2) := by
  rw [readValue.eq_def, skipBlanks_cons (by decide)]
  rfl

theorem readValue_brace (steps depth : Nat) (more : List Char) (place : Position) :
    readValue steps (depth + 1) ⟨'\x7b' :: more, place⟩ =
      readMembers (readValue steps depth) steps true .nil ⟨more, place.after '\x7b'⟩ >>=
        fun read => .ok (.object read.1, read.2) := by
  rw [readValue.eq_def, skipBlanks_cons (by decide)]
  rfl

theorem readValue_null (rest : List Char) (steps depth : Nat) (place : Position) :
    readValue steps depth ⟨Json.null.render ++ rest, place⟩ =
      .ok (.null, ⟨rest, Json.null.render.foldl Position.after place⟩) := by
  rw [Json.render, List.cons_append, readValue.eq_def, skipBlanks_cons (by decide)]
  rfl

theorem readValue_bool (value : Bool) (rest : List Char) (steps depth : Nat) (place : Position) :
    readValue steps depth ⟨(Json.bool value).render ++ rest, place⟩ =
      .ok (.bool value, ⟨rest, (Json.bool value).render.foldl Position.after place⟩) := by
  cases value <;>
  · rw [Json.render, List.cons_append, readValue.eq_def, skipBlanks_cons (by decide)]
    rfl

theorem readElements_close {α : Type} {element : Cursor → Except JsonError (α × Cursor)}
    (steps : Nat) (first : Bool) (reversed : List α) (place : Position) :
    readElements element (steps + 1) first reversed ⟨']' :: rest, place⟩ =
      .ok (reversed.reverse, ⟨rest, place.after ']'⟩) := by
  rw [readElements, skipBlanks_cons (by decide)]
  rfl

theorem readMembers_close {reader : Cursor → Except JsonError (Json × Cursor)} (steps : Nat)
    (first : Bool) (members : Members none) (place : Position) :
    readMembers reader (steps + 1) first members ⟨'\x7d' :: rest, place⟩ =
      .ok (members, ⟨rest, place.after '\x7d'⟩) := by
  rw [readMembers, findKey, skipBlanks_cons (by decide)]
  rfl

theorem Json.whole_element {elements : List Json} (whole : (Json.array elements).Whole) :
    ∀ element ∈ elements, element.Whole :=
  fun _ member number inner => whole number (.element member inner)

theorem Json.whole_array {elements : List Json} (whole : ∀ element ∈ elements, element.Whole) :
    (Json.array elements).Whole := by
  rintro number (_ | ⟨member, inner⟩)
  exact whole _ member number inner

theorem Json.whole_member {members : Members none} (whole : (Json.object members).Whole) :
    ∀ entry ∈ members.toList, entry.2.Whole :=
  fun _ member number inner => whole number (.member member inner)

theorem endsNumber_renderElements (elements : List Json) (rest : List Char) :
    EndsNumber (renderElements elements ++ rest) := by
  intro character ahead
  cases elements <;> cases ahead <;> decide

theorem endsNumber_renderRest {floor : Option String} (members : Members floor)
    (rest : List Char) : EndsNumber (members.renderRest ++ rest) := by
  intro character ahead
  cases members <;> cases ahead <;> decide

/-- The text of members from behind the opening brace, or from behind an earlier member. -/
def Members.renderFrom {floor : Option String} (members : Members floor) :
    (first : Bool) → List Char
  | true => members.render
  | false => members.renderRest

theorem Members.renderFrom_nil {floor : Option String} (first : Bool) :
    (Members.nil : Members floor).renderFrom first = ['\x7d'] := by
  cases first <;> rfl

theorem Members.renderFrom_length {floor : Option String} (key : String) (above : Above floor key)
    (value : Json) (members : Members (some key)) (first : Bool) :
    ((Members.cons key above value members).renderFrom first).length =
      (if first then 0 else 1) + (renderStringBody key.toList).length + 2 + value.render.length +
        members.renderRest.length := by
  cases first <;>
    simp only [renderFrom, render, renderRest, renderString, List.length_append, List.length_cons,
      Bool.false_eq_true, if_true, if_false] <;> omega

theorem findKey_renderFrom {floor : Option String} (key : String) (above : Above floor key)
    (value : Json) (members : Members (some key)) (first : Bool) (rest : List Char)
    (place : Position) :
    ∃ behind, findKey first
        ⟨(Members.cons key above value members).renderFrom first ++ rest, place⟩ =
      .ok (true, ⟨renderStringBody key.toList ++ ':' :: (value.render ++
        (members.renderRest ++ rest)), behind⟩) := by
  cases first with
  | true =>
    refine ⟨place.after '"', ?_⟩
    simp only [Members.renderFrom, Members.render, renderString, List.append_assoc,
      List.cons_append]
    rw [findKey, skipBlanks_cons (by decide)]
    rfl
  | false =>
    refine ⟨(place.after ',').after '"', ?_⟩
    simp only [Members.renderFrom, Members.renderRest, renderString, List.append_assoc,
      List.cons_append]
    rw [findKey, skipBlanks_cons (by decide)]
    rfl

mutual
theorem readValue_render : (value : Json) → (rest : List Char) → (steps depth : Nat) →
    value.render.length ≤ steps → value.height ≤ depth → EndsNumber rest → (place : Position) →
      ∃ result behind, readValue steps depth ⟨value.render ++ rest, place⟩ =
        .ok (result, ⟨rest, behind⟩) ∧ (value.Whole → result = value)
  | .null, rest, steps, depth, _, _, _, place => by
    exact ⟨.null, _, readValue_null rest steps depth place, fun _ => rfl⟩
  | .bool value, rest, steps, depth, _, _, _, place => by
    exact ⟨.bool value, _, readValue_bool value rest steps depth place, fun _ => rfl⟩
  | .number (.integer word), _, steps, depth, _, _, ends, place => by
    rcases readValue_integer steps depth word ends place with ⟨behind, read⟩
    exact ⟨_, behind, read, fun _ => rfl⟩
  | .number (.double double), _, steps, depth, _, _, ends, place => by
    rcases readValue_double steps depth double ends place with ⟨result, behind, read⟩
    exact ⟨_, behind, read, fun whole => absurd .self (whole double)⟩
  | .string text, rest, steps, depth, enough, _, _, place => by
    have shorter := length_lt_renderStringBody text.toList
    have fits : text.toList.length < steps := by
      rw [Json.render, renderString, List.length_cons] at enough
      omega
    rcases readString_render rest fits (place.after '"') with ⟨behind, read⟩
    refine ⟨.string text, behind, ?_, fun _ => rfl⟩
    rw [Json.render, renderString, List.cons_append, readValue_quote, read]
    rfl
  | .array [], rest, steps + 1, depth + 1, _, _, _, place => by
    refine ⟨.array [], (place.after '[').after ']', ?_, fun _ => rfl⟩
    rw [Json.render, List.cons_append, List.cons_append, List.nil_append, readValue_bracket,
      readElements_close]
    rfl
  | .array (value :: elements), rest, steps + 1, depth + 1, enough, low, ends, place => by
    simp only [Json.render, List.length_append, List.length_cons] at enough
    simp only [Json.height, heightOfElements] at low
    rcases Json.render_eq_cons value with ⟨first, more, begins, notBlank, notClosing⟩
    rcases readValue_render value
      (renderElements elements ++ rest) (steps + 1) depth (by omega) (by omega)
      (endsNumber_renderElements elements rest) (place.after '[') with ⟨result, middle, read, same⟩
    rcases readElements_render elements rest (steps + 1) depth
      steps (by omega) (by omega) (by omega) [result] middle with ⟨results, behind, others, alike⟩
    refine ⟨.array (result :: results), behind, ?_, ?_⟩
    · rw [begins] at read
      rw [Json.render, List.append_assoc, List.cons_append, begins, readValue_bracket,
        List.cons_append, readElements_first notBlank notClosing, ← List.cons_append, read]
      simp only [bind, Except.bind]
      rw [others]
      rfl
    · intro whole
      have parts := Json.whole_element whole
      rw [same (parts value List.mem_cons_self),
        alike fun element member => parts element (List.mem_cons_of_mem value member)]
  | .object members, rest, steps, depth + 1, enough, low, _, place => by
    rw [Json.render, List.length_cons] at enough
    rw [Json.height] at low
    rcases readMembers_render members true rest steps depth steps
      (Nat.le_of_succ_le enough) (Nat.le_of_succ_le_succ low) (Nat.le_of_succ_le enough) .nil
      (by simp [Members.toList]) (place.after '\x7b') with ⟨results, behind, read, alike⟩
    refine ⟨.object results, behind, ?_, ?_⟩
    · rw [Json.render, List.cons_append, readValue_brace]
      rw [Members.renderFrom] at read
      rw [read]
      rfl
    · intro whole
      have entries := alike (Json.whole_member whole)
      rw [Members.toList, List.nil_append] at entries
      rw [Members.toList_injective entries]

theorem readElements_render : (elements : List Json) → (rest : List Char) →
    (steps depth loop : Nat) → (renderElements elements).length ≤ steps →
      heightOfElements elements ≤ depth → (renderElements elements).length ≤ loop →
        (reversed : List Json) → (place : Position) →
          ∃ results behind, readElements (readValue steps depth) loop false reversed
              ⟨renderElements elements ++ rest, place⟩ =
            .ok (reversed.reverse ++ results, ⟨rest, behind⟩) ∧
              ((∀ element ∈ elements, element.Whole) → results = elements)
  | [], rest, _, _, loop + 1, _, _, _, reversed, place => by
    refine ⟨[], place.after ']', ?_, fun _ => rfl⟩
    rw [renderElements, List.cons_append, List.nil_append, readElements_close, List.append_nil]
  | value :: elements, rest, steps, depth, loop + 1, enough, low, within, reversed, place => by
    simp only [renderElements, List.length_append, List.length_cons] at enough within
    rw [heightOfElements] at low
    rcases Json.render_eq_cons value with ⟨first, more, begins, notBlank, notClosing⟩
    rcases readValue_render value
      (renderElements elements ++ rest) steps depth (by omega) (by omega)
      (endsNumber_renderElements elements rest) (place.after ',') with ⟨result, middle, read, same⟩
    -- An element takes at least one character, so there is a step of the loop left for each.
    rcases readElements_render elements rest steps depth loop
      (by omega) (by omega) (by omega) (result :: reversed) middle with
        ⟨results, behind, others, alike⟩
    refine ⟨result :: results, behind, ?_, ?_⟩
    · rw [begins] at read
      rw [renderElements, List.append_assoc, List.cons_append, begins, List.cons_append,
        readElements_comma notBlank notClosing, ← List.cons_append, read]
      simp only [bind, Except.bind]
      rw [others, List.reverse_cons, List.append_assoc, List.singleton_append]
    · intro whole
      rw [same (whole value List.mem_cons_self),
        alike fun element member => whole element (List.mem_cons_of_mem value member)]

theorem readMembers_render {floor : Option String} : (members : Members floor) →
    (first : Bool) → (rest : List Char) → (steps depth loop : Nat) →
      (members.renderFrom first).length ≤ steps → members.height ≤ depth →
        (members.renderFrom first).length ≤ loop → (found : Members none) →
          (∀ key, Above floor key → ∀ entry ∈ found.toList, entry.1 < key) → (place : Position) →
            ∃ result behind, readMembers (readValue steps depth) loop first found
                ⟨members.renderFrom first ++ rest, place⟩ = .ok (result, ⟨rest, behind⟩) ∧
              ((∀ entry ∈ members.toList, entry.2.Whole) →
                result.toList = found.toList ++ members.toList)
  | .nil, first, rest, _, _, loop, _, _, within, found, _, place => by
    rw [Members.renderFrom_nil] at within ⊢
    refine ⟨found, place.after '\x7d', ?_, fun _ => by rw [Members.toList, List.append_nil]⟩
    match loop, within with
    | loop + 1, _ => rw [List.cons_append, List.nil_append, readMembers_close]
  | .cons key above value members, first, rest, steps, depth, loop, enough, low, within, found,
      below, place => by
    have shorter := length_lt_renderStringBody key.toList
    rw [Members.renderFrom_length] at enough within
    rw [Members.height] at low
    match loop, within with
    | 0, within => omega
    | loop + 1, within =>
      rcases findKey_renderFrom key above value members first rest place with ⟨keyPlace, keyFound⟩
      rcases readMembers_key (readValue steps depth) found
        (show key.toList.length < loop by omega) keyFound with ⟨colon, loopStep⟩
      rcases readValue_render value (members.renderRest ++ rest)
        steps depth (by omega) (by omega) (endsNumber_renderRest members rest) colon with
          ⟨result, middle, read, same⟩
      -- Keys ascend, so each member goes behind those found before.
      have inserted : (found.insert key (above_none key) result).toList =
          found.toList ++ [(key, result)] := by
        rw [Members.toList_insert, Entries.insert_of_forall_lt result (below key above)]
      have nextBelow : ∀ other, Above (some key) other →
          ∀ entry ∈ (found.insert key (above_none key) result).toList, entry.1 < other := by
        intro other otherAbove entry member
        have keyBelow : key < other := otherAbove key rfl
        rw [inserted] at member
        rcases List.mem_append.mp member with earlier | own
        · exact String.lt_trans (below key above entry earlier) keyBelow
        · rw [List.mem_singleton.mp own]
          exact keyBelow
      rcases readMembers_render members false rest steps depth
        loop (by rw [Members.renderFrom]; omega) (by omega) (by rw [Members.renderFrom]; omega)
        (found.insert key (above_none key) result) nextBelow middle with
          ⟨results, behind, others, alike⟩
      refine ⟨results, behind, ?_, ?_⟩
      · rw [loopStep, read]
        exact others
      · intro whole
        have entries := alike fun entry member => whole entry (List.mem_cons_of_mem _ member)
        rw [entries, inserted, same (whole (key, value) List.mem_cons_self), Members.toList,
          List.append_assoc, List.singleton_append]
end

/-! ## Values that nest too deep -/

theorem readValue_bracket_zero (steps : Nat) (more : List Char) (place : Position) :
    ∃ error, readValue steps 0 ⟨'[' :: more, place⟩ = .error error := by
  rw [readValue.eq_def, skipBlanks_cons (by decide)]
  exact ⟨_, rfl⟩

theorem readValue_brace_zero (steps : Nat) (more : List Char) (place : Position) :
    ∃ error, readValue steps 0 ⟨'\x7b' :: more, place⟩ = .error error := by
  rw [readValue.eq_def, skipBlanks_cons (by decide)]
  exact ⟨_, rfl⟩

mutual
theorem readValue_tooDeep : (value : Json) → (rest : List Char) → (steps depth : Nat) →
    value.render.length ≤ steps → depth < value.height → (place : Position) →
      ∃ error, readValue steps depth ⟨value.render ++ rest, place⟩ = .error error
  | .null, _, _, _, _, deep, _ | .bool _, _, _, _, _, deep, _ | .number _, _, _, _, _, deep, _
  | .string _, _, _, _, _, deep, _ => absurd deep (Nat.not_lt_zero _)
  | .array [], rest, steps, 0, _, _, place => by
    rw [Json.render, List.cons_append]
    exact readValue_bracket_zero steps _ place
  | .array [], _, _, _ + 1, _, deep, _ => by
    simp [Json.height, heightOfElements] at deep
  | .array (_ :: _), _, 0, _ + 1, enough, _, _ => by
    simp [Json.render] at enough
  | .array (value :: elements), rest, steps, 0, _, _, place => by
    rw [Json.render, List.append_assoc, List.cons_append]
    exact readValue_bracket_zero steps _ place
  | .array (value :: elements), rest, steps + 1, depth + 1, enough, deep, place => by
    simp only [Json.render, List.length_append, List.length_cons] at enough
    simp only [Json.height, heightOfElements] at deep
    rcases Json.render_eq_cons value with ⟨first, more, begins, notBlank, notClosing⟩
    rw [Json.render, List.append_assoc, List.cons_append, readValue_bracket]
    by_cases low : value.height ≤ depth
    · rcases readValue_render value
        (renderElements elements ++ rest) (steps + 1) depth (by omega) low
        (endsNumber_renderElements elements rest) (place.after '[') with ⟨result, middle, read, _⟩
      rcases readElements_tooDeep elements rest (steps + 1) depth steps (by omega)
        (by omega) (by omega) [result] middle with ⟨error, fails⟩
      refine ⟨error, ?_⟩
      rw [begins] at read
      rw [begins, List.cons_append, readElements_first notBlank notClosing, ← List.cons_append,
        read]
      simp only [bind, Except.bind]
      rw [fails]
    · rcases readValue_tooDeep value (renderElements elements ++ rest)
        (steps + 1) depth (by omega) (by omega) (place.after '[') with ⟨error, fails⟩
      refine ⟨error, ?_⟩
      rw [begins] at fails
      rw [begins, List.cons_append, readElements_first notBlank notClosing, ← List.cons_append,
        fails]
      rfl
  | .object members, rest, steps, 0, _, _, place => by
    rw [Json.render, List.cons_append]
    exact readValue_brace_zero steps _ place
  | .object members, rest, steps, depth + 1, enough, deep, place => by
    rw [Json.render, List.length_cons] at enough
    rw [Json.height] at deep
    rcases readMembers_tooDeep members true rest steps depth steps
      (Nat.le_of_succ_le enough) (Nat.lt_of_succ_lt_succ deep) (Nat.le_of_succ_le enough) .nil
      (place.after '\x7b') with ⟨error, fails⟩
    refine ⟨error, ?_⟩
    rw [Json.render, List.cons_append, readValue_brace]
    rw [Members.renderFrom] at fails
    rw [fails]
    rfl

theorem readElements_tooDeep : (elements : List Json) → (rest : List Char) →
    (steps depth loop : Nat) → (renderElements elements).length ≤ steps →
      depth < heightOfElements elements → (renderElements elements).length ≤ loop →
        (reversed : List Json) → (place : Position) →
          ∃ error, readElements (readValue steps depth) loop false reversed
            ⟨renderElements elements ++ rest, place⟩ = .error error
  | [], _, _, _, _, _, deep, _, _, _ => absurd deep (Nat.not_lt_zero _)
  | _ :: _, _, _, _, 0, _, _, within, _, _ => by simp [renderElements] at within
  | value :: elements, rest, steps, depth, loop + 1, enough, deep, within, reversed, place => by
    simp only [renderElements, List.length_append, List.length_cons] at enough within
    rw [heightOfElements] at deep
    rcases Json.render_eq_cons value with ⟨first, more, begins, notBlank, notClosing⟩
    rw [renderElements, List.append_assoc, List.cons_append]
    -- Either this element is read and a later one nests too deep, or it is this one.
    by_cases low : value.height ≤ depth
    · rcases readValue_render value
        (renderElements elements ++ rest) steps depth (by omega) low
        (endsNumber_renderElements elements rest) (place.after ',') with ⟨result, middle, read, _⟩
      rcases readElements_tooDeep elements rest steps depth loop (by omega)
        (by omega) (by omega) (result :: reversed) middle with ⟨error, fails⟩
      refine ⟨error, ?_⟩
      rw [begins] at read
      rw [begins, List.cons_append, readElements_comma notBlank notClosing, ← List.cons_append,
        read]
      simp only [bind, Except.bind]
      rw [fails]
    · rcases readValue_tooDeep value (renderElements elements ++ rest)
        steps depth (by omega) (by omega) (place.after ',') with ⟨error, fails⟩
      refine ⟨error, ?_⟩
      rw [begins] at fails
      rw [begins, List.cons_append, readElements_comma notBlank notClosing, ← List.cons_append,
        fails]
      rfl

theorem readMembers_tooDeep {floor : Option String} : (members : Members floor) →
    (first : Bool) → (rest : List Char) → (steps depth loop : Nat) →
      (members.renderFrom first).length ≤ steps → depth < members.height →
        (members.renderFrom first).length ≤ loop → (found : Members none) → (place : Position) →
          ∃ error, readMembers (readValue steps depth) loop first found
            ⟨members.renderFrom first ++ rest, place⟩ = .error error
  | .nil, _, _, _, _, _, _, deep, _, _, _ => absurd deep (Nat.not_lt_zero _)
  | .cons key above value members, first, rest, steps, depth, loop, enough, deep, within, found,
      place => by
    have shorter := length_lt_renderStringBody key.toList
    rw [Members.renderFrom_length] at enough within
    rw [Members.height] at deep
    match loop, within with
    | 0, within => omega
    | loop + 1, within =>
      rcases findKey_renderFrom key above value members first rest place with ⟨keyPlace, keyFound⟩
      rcases readMembers_key (readValue steps depth) found
        (show key.toList.length < loop by omega) keyFound with ⟨colon, loopStep⟩
      rw [loopStep]
      by_cases low : value.height ≤ depth
      · rcases readValue_render value (members.renderRest ++ rest)
          steps depth (by omega) low (endsNumber_renderRest members rest) colon with
            ⟨result, middle, read, _⟩
        rcases readMembers_tooDeep members false rest steps depth loop
          (by rw [Members.renderFrom]; omega) (by omega) (by rw [Members.renderFrom]; omega)
          (found.insert key (above_none key) result) middle with ⟨error, fails⟩
        refine ⟨error, ?_⟩
        rw [read]
        exact fails
      · rcases readValue_tooDeep value (members.renderRest ++ rest) steps depth
          (by omega) (by omega) colon with ⟨error, fails⟩
        refine ⟨error, ?_⟩
        rw [fails]
        rfl
end

/-! ## Whole texts -/

mutual
theorem Json.lineFeed_notMem_render : (value : Json) → '\n' ∉ value.render
  | .null | .bool true | .bool false | .array [] => by simp [Json.render]
  | .number number => lineFeed_notMem_render_number number
  | .string text => lineFeed_notMem_renderString text
  | .array (value :: elements) => by
    have first := Json.lineFeed_notMem_render value
    have others := lineFeed_notMem_renderElements elements
    simp [Json.render, first, others]
  | .object members => by
    have inner := Members.lineFeed_notMem_render members true
    rw [Members.renderFrom] at inner
    simp [Json.render, inner]

theorem lineFeed_notMem_renderElements : (elements : List Json) →
    '\n' ∉ renderElements elements
  | [] => by simp [renderElements]
  | value :: elements => by
    have first := Json.lineFeed_notMem_render value
    have others := lineFeed_notMem_renderElements elements
    simp [renderElements, first, others]

theorem Members.lineFeed_notMem_render {floor : Option String} : (members : Members floor) →
    (first : Bool) → '\n' ∉ members.renderFrom first
  | .nil, first => by simp [Members.renderFrom_nil]
  | .cons key _ value members, first => by
    have keyText := lineFeed_notMem_renderString key
    have valueText := Json.lineFeed_notMem_render value
    have others := Members.lineFeed_notMem_render members false
    rw [Members.renderFrom] at others
    cases first <;>
      simp [Members.renderFrom, Members.render, Members.renderRest, keyText, valueText, others]
end

theorem Members.renderFrom_eq_append {floor : Option String} : (members : Members floor) →
    (first : Bool) → ∃ front, members.renderFrom first = front ++ ['\x7d']
  | .nil, first => ⟨[], Members.renderFrom_nil first⟩
  | .cons key _ value members, first => by
    rcases Members.renderFrom_eq_append members false with ⟨front, others⟩
    rw [Members.renderFrom] at others
    cases first <;> rw [Members.renderFrom]
    · exact ⟨',' :: renderString key ++ ':' :: value.render ++ front, by
        simp [Members.renderRest, others]⟩
    · exact ⟨renderString key ++ ':' :: value.render ++ front, by
        simp [Members.render, others]⟩

theorem render_object_eq_append (members : Members none) :
    ∃ inner, (Json.object members).render = '\x7b' :: (inner ++ ['\x7d']) := by
  rcases members.renderFrom_eq_append true with ⟨inner, ends⟩
  rw [Members.renderFrom] at ends
  exact ⟨inner, by rw [Json.render, ends]⟩

theorem renderElements_eq_append : (elements : List Json) →
    ∃ front, renderElements elements = front ++ [']']
  | [] => ⟨[], rfl⟩
  | value :: elements => by
    rcases renderElements_eq_append elements with ⟨front, others⟩
    exact ⟨',' :: value.render ++ front, by simp [renderElements, others]⟩

theorem render_array_eq_append (elements : List Json) :
    ∃ inner, (Json.array elements).render = '[' :: (inner ++ [']']) := by
  cases elements with
  | nil => exact ⟨[], rfl⟩
  | cons value elements =>
    rcases renderElements_eq_append elements with ⟨front, others⟩
    exact ⟨value.render ++ front, by simp [Json.render, others]⟩

/-- A value is read back from its compact text unless it nests too deep. -/
theorem parse_compact (value : Json) (low : value.height ≤ depthLimit) :
    ∃ found, Json.parse value.compact = .ok found ∧ (value.Whole → found = value) := by
  have text : value.compact.toList = value.render ++ [] := by simp [Json.compact]
  have enough : value.render.length ≤ stepLimit value.compact.toList := by
    rw [text, List.append_nil]
    exact Nat.le_succ _
  rcases readValue_render value [] (stepLimit value.compact.toList)
    depthLimit enough low (by simp [EndsNumber]) Position.start with ⟨found, behind, read, same⟩
  rw [← text] at read
  refine ⟨found, ?_, same⟩
  unfold Json.parse readWhole
  simp only [read]
  rfl

theorem readObject_brace (steps : Nat) (more : List Char) (place : Position) :
    readObject steps ⟨'\x7b' :: more, place⟩ =
      readMembers (readValue steps (depthLimit - 1)) steps true .nil
        ⟨more, place.after '\x7b'⟩ := by
  have value := readValue_brace steps (depthLimit - 1) more place
  unfold readObject
  rw [skipBlanks_cons (by decide)]
  simp only [depthLimit] at value ⊢
  rw [value]
  cases readMembers (readValue steps 126) steps true .nil ⟨more, place.after '\x7b'⟩ <;> rfl

theorem readWhole_readObject_compact (members : Members none) :
    ((Json.object members).height ≤ depthLimit →
      ∃ found, readWhole readObject (Json.object members).compact = .ok found ∧
        ((Json.object members).Whole → found = members)) ∧
    (depthLimit < (Json.object members).height →
      ∃ error, readWhole readObject (Json.object members).compact = .error error) := by
  have text : (Json.object members).compact.toList = '\x7b' :: (members.render ++ []) := by
    rw [List.append_nil]
    simp [Json.compact, Json.render]
  have enough : (members.renderFrom true).length ≤
      stepLimit ('\x7b' :: (members.render ++ [])) := by
    simp only [Members.renderFrom, stepLimit, List.length_cons, List.append_nil]
    omega
  unfold readWhole
  simp only [text]
  generalize stepLimit ('\x7b' :: (members.render ++ [])) = steps at enough
  rw [readObject_brace, Json.height]
  constructor
  · intro low
    rcases readMembers_render members true [] steps
      (depthLimit - 1) steps enough (Nat.le_pred_of_lt low) enough .nil (by simp [Members.toList])
      (Position.start.after '\x7b') with ⟨found, behind, read, alike⟩
    refine ⟨found, ?_, fun whole => ?_⟩
    · rw [Members.renderFrom] at read
      rw [read]
      rfl
    · have entries := alike (Json.whole_member whole)
      rw [Members.toList, List.nil_append] at entries
      exact Members.toList_injective entries
  · intro deep
    rcases readMembers_tooDeep members true [] steps (depthLimit - 1) steps enough
      (by simp only [depthLimit] at *; omega) enough .nil (Position.start.after '\x7b') with
        ⟨error, fails⟩
    refine ⟨error, ?_⟩
    rw [Members.renderFrom] at fails
    rw [fails]
    rfl

end ChartDialogue
