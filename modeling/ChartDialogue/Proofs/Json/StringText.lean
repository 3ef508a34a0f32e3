import ChartDialogue.Json.Printer
import ChartDialogue.Json.Reader
import Mathlib.Tactic.SplitIfs

/-! # Reading strings back

A string literal is read back as the text it was written for, whatever its characters are.
-/

namespace ChartDialogue

variable {rest : List Char}

/-! ## Characters -/

theorem natural?_of_control : ∀ code < 0x20,
    Digits.natural? 16 ['0', '0', Nat.digitChar (code / 16), Nat.digitChar (code % 16)] =
      some code := by
  decide +kernel

theorem readStringCharacter_control {character : Char} (control : character.toNat < 0x20)
    (place : Position) :
    ∃ behind, readStringCharacter ⟨controlEscape character ++ rest, place⟩ =
      .ok (some character, ⟨rest, behind⟩) := by
  have digits := natural?_of_control character.toNat control
  have plain : ¬ (0xDC00 ≤ character.toNat ∧ character.toNat ≤ 0xDFFF) := by omega
  have single : character.toNat < 0xD800 ∨ 0xDBFF < character.toNat := by omega
  simp only [controlEscape, List.cons_append, List.nil_append, readStringCharacter, Cursor.next,
    readUnicodeEscape, readHex, digits]
  simp only [bind, Except.bind, pure, Except.pure, if_neg plain, if_pos single,
    Char.ofNat_toNat]
  exact ⟨_, rfl⟩

theorem readStringCharacter_plain {character : Char} (notQuote : character ≠ '"')
    (notBackslash : character ≠ '\\') (notControl : ¬ character.toNat < 0x20) (place : Position) :
    ∃ behind, readStringCharacter ⟨character :: rest, place⟩ =
      .ok (some character, ⟨rest, behind⟩) := by
  unfold readStringCharacter
  split
  · rename_i same
    cases same
  · rename_i same
    cases same
    exact absurd rfl notQuote
  · rename_i same
    cases same
    exact absurd rfl notBackslash
  · rename_i same
    cases same
    rw [if_neg notControl]
    exact ⟨_, rfl⟩

theorem readStringCharacter_escape (rest : List Char) (character : Char) (place : Position) :
    ∃ behind, readStringCharacter ⟨escapeCharacter character ++ rest, place⟩ =
      .ok (some character, ⟨rest, behind⟩) := by
  unfold escapeCharacter
  split_ifs with quote backslash backspace formFeed lineFeed carriageReturn tabulator control
  · exact ⟨_, by rw [quote]; rfl⟩
  · exact ⟨_, by rw [backslash]; rfl⟩
  · exact ⟨_, by rw [backspace]; rfl⟩
  · exact ⟨_, by rw [formFeed]; rfl⟩
  · exact ⟨_, by rw [lineFeed]; rfl⟩
  · exact ⟨_, by rw [carriageReturn]; rfl⟩
  · exact ⟨_, by rw [tabulator]; rfl⟩
  · exact readStringCharacter_control control place
  · exact readStringCharacter_plain quote backslash control place

/-! ## Literals -/

theorem readStringBody_render (rest : List Char) : (characters : List Char) → {steps : Nat} →
    characters.length < steps → (reversed : List Char) → (place : Position) →
      ∃ behind, readStringBody steps reversed ⟨renderStringBody characters ++ rest, place⟩ =
        .ok (reversed.reverse ++ characters, ⟨rest, behind⟩)
  | [], steps + 1, _, reversed, place => by
    refine ⟨place.after '"', ?_⟩
    rw [List.append_nil]
    rfl
  | character :: characters, steps + 1, enough, reversed, place => by
    rcases readStringCharacter_escape (renderStringBody characters ++ rest) character place with
        ⟨middle, first⟩
    rcases readStringBody_render rest characters
      (Nat.lt_of_succ_lt_succ enough) (character :: reversed) middle with ⟨behind, others⟩
    have text : renderStringBody (character :: characters) ++ rest =
        escapeCharacter character ++ (renderStringBody characters ++ rest) := by
      simp [renderStringBody]
    refine ⟨behind, ?_⟩
    rw [text, readStringBody, first]
    simp only [bind, Except.bind]
    rw [others]
    simp

theorem length_lt_renderStringBody (characters : List Char) :
    characters.length < (renderStringBody characters).length := by
  have nonempty : ∀ character, 1 ≤ (escapeCharacter character).length := by
    intro character
    unfold escapeCharacter
    split_ifs <;> simp [controlEscape]
  induction characters with
  | nil => simp [renderStringBody]
  | cons character characters induction =>
    have first := nonempty character
    simp only [renderStringBody, List.flatMap_cons, List.length_append, List.length_cons,
      List.length_nil] at induction ⊢
    omega

theorem readString_render (rest : List Char) {text : String} {steps : Nat}
    (enough : text.toList.length < steps) (place : Position) :
    ∃ behind, readString steps ⟨renderStringBody text.toList ++ rest, place⟩ =
      .ok (text, ⟨rest, behind⟩) := by
  rcases readStringBody_render rest text.toList enough [] place with ⟨behind, read⟩
  refine ⟨behind, ?_⟩
  rw [readString, read]
  simp [bind, Except.bind, pure, Except.pure]

/-! ## Line feeds -/

theorem lineFeed_notMem_controlEscape : ∀ code < 0x20,
    '\n' ∉ ['\\', 'u', '0', '0', Nat.digitChar (code / 16), Nat.digitChar (code % 16)] := by
  decide

theorem lineFeed_notMem_escapeCharacter (character : Char) :
    '\n' ∉ escapeCharacter character := by
  unfold escapeCharacter
  split_ifs with quote backslash backspace formFeed lineFeed carriageReturn tabulator control
  · decide
  · decide
  · decide
  · decide
  · decide
  · decide
  · decide
  · exact lineFeed_notMem_controlEscape character.toNat control
  · simpa using Ne.symm lineFeed

theorem lineFeed_notMem_renderString (text : String) : '\n' ∉ renderString text := by
  simp only [renderString, renderStringBody, List.mem_cons, List.mem_append, List.mem_flatMap,
    List.not_mem_nil, or_false, not_or, not_exists, not_and]
  exact ⟨by decide, fun character _ => lineFeed_notMem_escapeCharacter character, by decide⟩

end ChartDialogue
