import ChartDialogue.Toml.Writer
import Mathlib.Data.List.Basic
import Mathlib.Tactic.SplitIfs

/-! # Reading TOML strings back

A string is read back as the text it was written for, in whichever of the four kinds it was written,
if no further mark follows its closing one.
-/

namespace ChartDialogue.Toml

variable {rest : List Char}

/-! ## Escapes -/

def AlwaysEscaped (character : Char) : Prop :=
  character = '"' ∨ character = '\\' ∨ character = '\t' ∨ ¬ isPlain character

def escapeMarks : List Char := ['b', 't', 'n', 'f', 'r', '"', '\\', 'u']

def fourDigits (code : Nat) : List Char :=
  List.replicate (4 - (hexDigits code).length) '0' ++ hexDigits code

theorem natural?_fourDigits : ∀ code < 0x80,
    (fourDigits code).length = 4 ∧ Digits.natural? 16 (fourDigits code) = some code := by
  decide +kernel

theorem hexEscape?_fourDigits {character : Char} (small : character.toNat < 0x80) :
    hexEscape? 4 (fourDigits character.toNat ++ rest) = some (character, rest) := by
  obtain ⟨length, number⟩ := natural?_fourDigits character.toNat small
  have front : (fourDigits character.toNat ++ rest).take 4 = fourDigits character.toNat := by
    rw [← length, List.take_left]
  have behind : (fourDigits character.toNat ++ rest).drop 4 = rest := by
    rw [← length, List.drop_left]
  have valid : Text.ofCode? character.toNat = some character := by
    have isValid : character.toNat.isValidChar := character.valid
    rw [Text.ofCode?, if_pos isValid, Char.ofNat_toNat]
  have counted : (guard ((fourDigits character.toNat).length = 4) : Option Unit) = some () :=
    if_pos length
  unfold hexEscape?
  dsimp only
  rw [front, behind, counted, number]
  dsimp only [Option.bind_eq_bind, Option.bind_some]
  rw [valid]
  rfl

theorem escape?_escaped (rest : List Char) {character : Char} (needed : AlwaysEscaped character) :
    ∃ mark code, escaped character = '\\' :: mark :: code ∧ mark ∈ escapeMarks ∧
      escape? (mark :: (code ++ rest)) = some (character, rest) := by
  unfold escaped
  split
  · exact ⟨'b', [], rfl, by decide, rfl⟩
  · exact ⟨'t', [], rfl, by decide, rfl⟩
  · exact ⟨'n', [], rfl, by decide, rfl⟩
  · exact ⟨'f', [], rfl, by decide, rfl⟩
  · exact ⟨'r', [], rfl, by decide, rfl⟩
  · exact ⟨'"', [], rfl, by decide, rfl⟩
  · exact ⟨'\\', [], rfl, by decide, rfl⟩
  · rename_i notTab _ _ _ notQuote notBackslash
    have small : character.toNat < 0x80 := by
      rcases needed with quote | backslash | tab | control
      · exact absurd quote notQuote
      · exact absurd backslash notBackslash
      · exact absurd tab notTab
      · simp [isPlain] at control
        omega
    exact ⟨'u', fourDigits character.toNat, rfl, by decide, hexEscape?_fourDigits small⟩

/-- What a character between quotes becomes: a quote that may stay, a character that stays, or an
escape. -/
theorem escapeAll_cons (quotes : Nat) (lines : Bool) (run : Nat) (character : Char)
    (characters : List Char) :
    (character = '"' ∧ run < quotes ∧
      escapeAll quotes lines run (character :: characters) =
        '"' :: escapeAll quotes lines (run + 1) characters) ∨
    (character ≠ '"' ∧ character ≠ '\\' ∧ (isPlain character ∨ character = '\n' ∧ lines) ∧
      escapeAll quotes lines run (character :: characters) =
        character :: escapeAll quotes lines 0 characters) ∨
    (AlwaysEscaped character ∧
      escapeAll quotes lines run (character :: characters) =
        escaped character ++ escapeAll quotes lines 0 characters) := by
  rw [escapeAll]
  split_ifs with quote few stays
  · exact .inl ⟨quote, few, rfl⟩
  · exact .inr (.inr ⟨.inl quote, by rw [quote]⟩)
  · refine .inr (.inl ⟨quote, ?_, ?_, rfl⟩)
    · rintro rfl
      rcases stays with ⟨lineFeed, _⟩ | ⟨_, _, notBackslash⟩
      · cases lineFeed
      · exact notBackslash rfl
    · exact stays.symm.imp And.left id
  · refine .inr (.inr ⟨?_, rfl⟩)
    unfold AlwaysEscaped
    tauto

/-! ## Strings on one line -/

theorem basic?_escapeAll (rest : List Char) : (characters : List Char) → {steps : Nat} →
    characters.length < steps → (read : List Char) →
      basic? steps read (escapeAll 0 false 0 characters ++ '"' :: rest) =
        some (String.ofList (read.reverse ++ characters), rest)
  | [], steps + 1, _, read => by simp [escapeAll, basic?]
  | character :: characters, steps + 1, enough, read => by
    have others := basic?_escapeAll rest characters (Nat.lt_of_succ_lt_succ enough)
      (character :: read)
    rw [List.reverse_cons, List.append_assoc, List.singleton_append] at others
    rcases escapeAll_cons 0 false 0 character characters with
      ⟨_, none, _⟩ | ⟨notQuote, notBackslash, plain, written⟩ | ⟨needed, written⟩
    · exact absurd none (Nat.not_lt_zero 0)
    · have isPlain : isPlain character := by simpa using plain
      rw [written, List.cons_append, basic?, if_neg notQuote, if_neg notBackslash, if_pos isPlain]
      exact others
    · obtain ⟨mark, code, escape, _, read?⟩ :=
        escape?_escaped (escapeAll 0 false 0 characters ++ '"' :: rest) needed
      rw [written, escape, List.append_assoc, List.cons_append, List.cons_append, basic?,
        if_neg (by decide), if_pos rfl, read?]
      exact others

theorem literal?_append (rest : List Char) : (characters : List Char) →
    (∀ character ∈ characters, isPlain character ∧ character ≠ '\'') → (read : List Char) →
      literal? read (characters ++ '\'' :: rest) =
        some (String.ofList (read.reverse ++ characters), rest)
  | [], _, read => by simp [literal?]
  | character :: characters, plain, read => by
    have first := plain character List.mem_cons_self
    have others := literal?_append rest characters
      (fun other member => plain other (List.mem_cons_of_mem character member)) (character :: read)
    rw [List.cons_append, literal?, if_neg first.2, if_pos first.1, others]
    simp

/-! ## Runs of marks -/

theorem length_takeWhile_replicate {mark : Char} (behind : rest.head? ≠ some mark) (count : Nat) :
    ((List.replicate count mark ++ rest).takeWhile (· == mark)).length = count := by
  induction count with
  | zero =>
    cases rest with
    | nil => rfl
    | cons character rest =>
      have different : (character == mark) = false := by simpa using behind
      simp [different]
  | succ count induction => simpa [List.replicate_succ] using induction

theorem closing?_of_lt {mark : Char} {count : Nat} (few : count < 3)
    (behind : rest.head? ≠ some mark) :
    closing? mark (List.replicate count mark ++ rest) = none := by
  rw [closing?, length_takeWhile_replicate behind, if_pos few]

/-- Up to two marks before the closing three belong to the text. -/
theorem closing?_replicate {mark : Char} {count : Nat} (few : count ≤ 2)
    (behind : rest.head? ≠ some mark) :
    closing? mark (List.replicate count mark ++ (List.replicate 3 mark ++ rest)) =
      some (List.replicate count mark, rest) := by
  have joined : List.replicate count mark ++ (List.replicate 3 mark ++ rest) =
      List.replicate (count + 3) mark ++ rest := by
    rw [← List.append_assoc, List.replicate_append_replicate]
  have kept : min (count + 3 - 3) 2 = count := by omega
  rw [joined, closing?, length_takeWhile_replicate behind, if_neg (by omega)]
  dsimp only
  rw [kept]
  have dropped : (List.replicate (count + 3) mark ++ rest).drop (count + 3) = rest := by
    rw [List.drop_left' List.length_replicate]
  rw [dropped]

def countRun (mark : Char) (state : Nat × Nat) (character : Char) : Nat × Nat :=
  if character = mark then (max state.1 (state.2 + 1), state.2 + 1) else (state.1, 0)

theorem longestRun_eq (mark : Char) (characters : List Char) :
    longestRun mark characters = (characters.foldl (countRun mark) (0, 0)).1 := rfl

theorem le_foldl_countRun (mark : Char) (characters : List Char) :
    (state : Nat × Nat) → state.1 ≤ (characters.foldl (countRun mark) state).1 := by
  induction characters with
  | nil => intro state; exact Nat.le_refl _
  | cons character characters induction =>
    intro state
    have step : state.1 ≤ (countRun mark state character).1 := by
      unfold countRun
      split
      · exact Nat.le_max_left _ _
      · exact Nat.le_refl _
    exact Nat.le_trans step (induction _)

theorem le_foldl_replicate (mark : Char) (count : Nat) : (state : Nat × Nat) →
    state.2 + count + 1 ≤ ((List.replicate (count + 1) mark).foldl (countRun mark) state).1 := by
  induction count with
  | zero =>
    intro state
    have counted : countRun mark state mark = (max state.1 (state.2 + 1), state.2 + 1) := if_pos rfl
    rw [List.replicate_one, List.foldl_cons, counted]
    exact Nat.le_max_right _ _
  | succ count induction =>
    intro state
    have later := induction (countRun mark state mark)
    have counted : (countRun mark state mark).2 = state.2 + 1 := by simp [countRun]
    rw [List.replicate_succ, List.foldl_cons]
    omega

theorem le_longestRun (mark : Char) (before after : List Char) (count : Nat) :
    count ≤ longestRun mark (before ++ (List.replicate count mark ++ after)) := by
  cases count with
  | zero => exact Nat.zero_le _
  | succ count =>
    rw [longestRun_eq, List.foldl_append, List.foldl_append]
    have here := le_foldl_replicate mark count (before.foldl (countRun mark) (0, 0))
    have later := le_foldl_countRun mark after
      ((List.replicate (count + 1) mark).foldl (countRun mark)
        (before.foldl (countRun mark) (0, 0)))
    omega

theorem notMem_of_longestRun {mark : Char} {characters : List Char}
    (free : longestRun mark characters = 0) : mark ∉ characters := by
  intro member
  obtain ⟨before, after, rfl⟩ := List.append_of_mem member
  have run := le_longestRun mark before after 1
  rw [List.replicate_one, List.singleton_append, free] at run
  exact absurd run (by decide)

theorem exists_leading (mark : Char) (characters : List Char) :
    ∃ count after, characters = List.replicate count mark ++ after ∧
      after.head? ≠ some mark := by
  induction characters with
  | nil => exact ⟨0, [], rfl, by simp⟩
  | cons character characters induction =>
    by_cases same : character = mark
    · obtain ⟨count, after, leading, behind⟩ := induction
      exact ⟨count + 1, after, by rw [leading, same]; rfl, behind⟩
    · exact ⟨0, character :: characters, rfl, by simpa using same⟩

/-! ## Strings on several lines -/

theorem lineBreak?_of_ne {character : Char} (notLineFeed : character ≠ '\n')
    (notReturn : character ≠ '\r') : lineBreak? (character :: rest) = none := by
  unfold lineBreak?
  split
  · rename_i same
    cases same
    exact absurd rfl notLineFeed
  · rename_i same
    cases same
    exact absurd rfl notReturn
  · rfl

theorem ne_of_isPlain {character : Char} (plain : isPlain character) :
    character ≠ '\n' ∧ character ≠ '\r' := by
  constructor
  · rintro rfl
    exact absurd plain (by decide)
  · rintro rfl
    exact absurd plain (by decide)

theorem continuation?_of_mem {mark : Char} (member : mark ∈ escapeMarks) (rest : List Char) :
    continuation? (mark :: rest) = none := by
  simp only [escapeMarks, List.mem_cons, List.not_mem_nil, or_false] at member
  rcases member with rfl | rfl | rfl | rfl | rfl | rfl | rfl | rfl <;> rfl

/-- The quotes that written characters begin with: all of them, or what follows is no quote. -/
theorem escapeAll_leading (characters : List Char) : (run : Nat) → run ≤ 2 →
    ∃ count, run + count ≤ 2 ∧
      ((characters = List.replicate count '"' ∧
          escapeAll 2 true run characters = List.replicate count '"') ∨
        ∃ character others, character ≠ '"' ∧
          escapeAll 2 true run characters = List.replicate count '"' ++ character :: others) := by
  induction characters with
  | nil => exact fun run bound => ⟨0, bound, .inl ⟨rfl, rfl⟩⟩
  | cons character characters induction =>
    intro run bound
    rcases escapeAll_cons 2 true run character characters with
      ⟨quote, few, written⟩ | ⟨notQuote, _, _, written⟩ | ⟨needed, written⟩
    · obtain ⟨count, total, same | ⟨other, others, notQuote, later⟩⟩ := induction (run + 1) few
      · refine ⟨count + 1, by omega, .inl ⟨?_, ?_⟩⟩
        · rw [quote, same.1, List.replicate_succ]
        · rw [written, same.2, List.replicate_succ]
      · refine ⟨count + 1, by omega, .inr ⟨other, others, notQuote, ?_⟩⟩
        rw [written, later, List.replicate_succ, List.cons_append]
    · exact ⟨0, bound, .inr ⟨character, _, notQuote, written⟩⟩
    · obtain ⟨mark, code, escape, _, _⟩ := escape?_escaped [] needed
      exact ⟨0, bound, .inr ⟨'\\', _, by decide, by rw [written, escape]; rfl⟩⟩

/-! What each character of a text between three quotes does, as long as they are not the closing
ones. -/

section

variable {steps : Nat} {read characters : List Char}

theorem longBasic?_of_closed {kept : List Char}
    (closed : closing? '"' characters = some (kept, rest)) :
    longBasic? (steps + 1) read characters =
      some (String.ofList (read.reverse ++ kept), rest) := by
  rw [longBasic?.eq_def]
  simp only [closed]

theorem longBasic?_lineFeed (opened : closing? '"' ('\n' :: characters) = none) :
    longBasic? (steps + 1) read ('\n' :: characters) =
      longBasic? steps ('\n' :: read) characters := by
  rw [longBasic?.eq_def]
  simp only [opened, lineBreak?]

theorem longBasic?_plain {character : Char} (plain : isPlain character)
    (notBackslash : character ≠ '\\')
    (opened : closing? '"' (character :: characters) = none) :
    longBasic? (steps + 1) read (character :: characters) =
      longBasic? steps (character :: read) characters := by
  obtain ⟨notLineFeed, notReturn⟩ := ne_of_isPlain plain
  rw [longBasic?.eq_def]
  simp only [opened, lineBreak?_of_ne notLineFeed notReturn]
  exact if_pos plain

theorem longBasic?_escaped {mark character : Char} (member : mark ∈ escapeMarks)
    (escape : escape? (mark :: characters) = some (character, rest))
    (opened : closing? '"' ('\\' :: mark :: characters) = none) :
    longBasic? (steps + 1) read ('\\' :: mark :: characters) =
      longBasic? steps (character :: read) rest := by
  have noBreak : lineBreak? ('\\' :: mark :: characters) = none :=
    lineBreak?_of_ne (by decide) (by decide)
  rw [longBasic?.eq_def]
  simp only [opened, noBreak, continuation?_of_mem member, escape]
  rfl

end

theorem longBasic?_escapeAll (behind : rest.head? ≠ some '"') : (characters : List Char) →
    {steps : Nat} → characters.length < steps → (run : Nat) → run ≤ 2 → (read : List Char) →
      longBasic? steps read
          (escapeAll 2 true run characters ++ (List.replicate 3 '"' ++ rest)) =
        some (String.ofList (read.reverse ++ characters), rest)
  | characters, steps + 1, enough, run, bound, read => by
    obtain ⟨count, total, ⟨same, written⟩ | ⟨first, others, notQuote, leading⟩⟩ :=
      escapeAll_leading characters run bound
    · rw [written, longBasic?_of_closed (closing?_replicate (by omega) behind), same]
    · have opened : closing? '"'
          (escapeAll 2 true run characters ++ (List.replicate 3 '"' ++ rest)) = none := by
        rw [leading, List.append_assoc]
        exact closing?_of_lt (by omega) (by simpa using notQuote)
      cases characters with
      | nil => cases count <;> cases leading
      | cons character characters =>
        have others (run : Nat) (bound : run ≤ 2) := longBasic?_escapeAll behind characters
          (Nat.lt_of_succ_lt_succ enough) run bound (character :: read)
        simp only [List.reverse_cons, List.append_assoc, List.singleton_append] at others
        rcases escapeAll_cons 2 true run character characters with
          ⟨rfl, few, written⟩ | ⟨_, notBackslash, plain, written⟩ | ⟨needed, written⟩
        · rw [written, List.cons_append] at opened ⊢
          rw [longBasic?_plain (by decide) (by decide) opened]
          exact others (run + 1) few
        · rw [written, List.cons_append] at opened ⊢
          rcases plain with plain | ⟨rfl, _⟩
          · rw [longBasic?_plain plain notBackslash opened]
            exact others 0 (by decide)
          · rw [longBasic?_lineFeed opened]
            exact others 0 (by decide)
        · obtain ⟨mark, code, escape, member, read?⟩ := escape?_escaped
            (escapeAll 2 true 0 characters ++ (List.replicate 3 '"' ++ rest)) needed
          rw [written, escape, List.append_assoc, List.cons_append, List.cons_append]
            at opened ⊢
          rw [longBasic?_escaped member read? opened]
          exact others 0 (by decide)

theorem longLiteral?_of_closed {steps : Nat} {read characters kept : List Char}
    (closed : closing? '\'' characters = some (kept, rest)) :
    longLiteral? (steps + 1) read characters =
      some (String.ofList (read.reverse ++ kept), rest) := by
  rw [longLiteral?.eq_def]
  simp only [closed]

theorem longLiteral?_plain {steps : Nat} {read characters : List Char} {character : Char}
    (plain : isPlain character ∨ character = '\n')
    (opened : closing? '\'' (character :: characters) = none) :
    longLiteral? (steps + 1) read (character :: characters) =
      longLiteral? steps (character :: read) characters := by
  rw [longLiteral?.eq_def]
  rcases plain with plain | rfl
  · obtain ⟨notLineFeed, notReturn⟩ := ne_of_isPlain plain
    simp only [opened, lineBreak?_of_ne notLineFeed notReturn, if_pos plain]
  · simp only [opened, lineBreak?]

theorem longLiteral?_append (behind : rest.head? ≠ some '\'') : (characters : List Char) →
    {steps : Nat} → characters.length < steps →
    (∀ character ∈ characters, isPlain character ∨ character = '\n') →
    (∀ before count after, characters = before ++ (List.replicate count '\'' ++ after) →
      count ≤ 2) → (read : List Char) →
      longLiteral? steps read (characters ++ (List.replicate 3 '\'' ++ rest)) =
        some (String.ofList (read.reverse ++ characters), rest)
  | characters, steps + 1, enough, plain, short, read => by
    obtain ⟨count, after, leading, next⟩ := exists_leading '\'' characters
    have few := short [] count after leading
    cases after with
    | nil =>
      rw [List.append_nil] at leading
      rw [leading, longLiteral?_of_closed (closing?_replicate few behind)]
    | cons first others =>
      have opened : closing? '\'' (characters ++ (List.replicate 3 '\'' ++ rest)) = none := by
        rw [leading, List.append_assoc]
        exact closing?_of_lt (by omega) (by simpa using next)
      cases characters with
      | nil => cases count <;> cases leading
      | cons character characters =>
        have others := longLiteral?_append behind characters (Nat.lt_of_succ_lt_succ enough)
          (fun other member => plain other (List.mem_cons_of_mem character member))
          (fun before count after whole =>
            short (character :: before) count after (by rw [whole, List.cons_append]))
          (character :: read)
        rw [List.reverse_cons, List.append_assoc, List.singleton_append] at others
        rw [List.cons_append] at opened ⊢
        rw [longLiteral?_plain (plain character List.mem_cons_self) opened]
        exact others

/-! ## Strings of every kind -/

def openingBreak (characters : List Char) : List Char :=
  if characters.contains '\n' then ['\n'] else []

/-- A string is written in one of four kinds. Only between apostrophes stand all characters as they
are, so only there something is asked of them. -/
theorem renderString_cases (text : String) :
    (renderString text).toList = '"' :: (escapeAll 0 false 0 text.toList ++ ['"']) ∨
    (renderString text).toList = '\'' :: (text.toList ++ ['\'']) ∧
      (∀ character ∈ text.toList, isPlain character ∧ character ≠ '\'') ∨
    (renderString text).toList = List.replicate 3 '"' ++
      (openingBreak text.toList ++ (escapeAll 2 true 0 text.toList ++ List.replicate 3 '"')) ∨
    (renderString text).toList = List.replicate 3 '\'' ++
        (openingBreak text.toList ++ (text.toList ++ List.replicate 3 '\'')) ∧
      (∀ character ∈ text.toList, isPlain character ∨ character = '\n') ∧
      longestRun '\'' text.toList ≤ 2 := by
  have plain_of (free : ¬ text.toList.any needsCode) :
      ∀ character ∈ text.toList, isPlain character ∨ character = '\n' := by
    intro character member
    by_contra needed
    refine free (List.any_eq_true.mpr ⟨character, member, ?_⟩)
    simpa [needsCode, not_or] using needed
  have written : (renderString text).toList = _ := String.toList_ofList
  simp only [List.append_assoc, ← openingBreak.eq_1] at written
  split_ifs at written with quoted literal long longLiteral lines
  · exact .inl written
  · refine .inr (.inl ⟨written, fun character member => ⟨?_, ?_⟩⟩)
    · rcases plain_of literal.1 character member with plain | rfl
      · exact plain
      · exact absurd (List.contains_iff_mem.mpr member) literal.2.2
    · rintro rfl
      exact notMem_of_longestRun literal.2.1 member
  · exact .inr (.inr (.inl written))
  · exact .inr (.inr (.inr ⟨written, plain_of longLiteral.1, longLiteral.2⟩))
  · exact .inr (.inr (.inl written))
  · exact .inl written

theorem length_le_escapeAll (quotes : Nat) (lines : Bool) (characters : List Char) :
    (run : Nat) → characters.length ≤ (escapeAll quotes lines run characters).length := by
  induction characters with
  | nil => exact fun _ => Nat.zero_le _
  | cons character characters induction =>
    intro run
    rcases escapeAll_cons quotes lines run character characters with
      ⟨_, _, written⟩ | ⟨_, _, _, written⟩ | ⟨needed, written⟩
    · rw [written]
      exact Nat.succ_le_succ (induction (run + 1))
    · rw [written]
      exact Nat.succ_le_succ (induction 0)
    · obtain ⟨mark, code, escape, _, _⟩ := escape?_escaped [] needed
      have later := induction 0
      rw [written, escape]
      simp only [List.length_append, List.length_cons]
      omega

theorem head?_escapeAll (lines : Bool) (characters : List Char) :
    (escapeAll 0 lines 0 characters).head? ≠ some '"' := by
  cases characters with
  | nil => simp [escapeAll]
  | cons character characters =>
    rcases escapeAll_cons 0 lines 0 character characters with
      ⟨_, none, _⟩ | ⟨notQuote, _, _, written⟩ | ⟨needed, written⟩
    · exact absurd none (Nat.not_lt_zero 0)
    · rw [written]
      simpa using notQuote
    · obtain ⟨mark, code, escape, _, _⟩ := escape?_escaped [] needed
      rw [written, escape]
      simp

/-- A mark is the whole opening of a string when the closing mark that may come next is no opening
of three marks. -/
theorem not_three_of_head? {mark : Char} {body : List Char} (first : body.head? ≠ some mark)
    (behind : rest.head? ≠ some mark) (others : List Char) :
    body ++ mark :: rest ≠ mark :: mark :: others := by
  intro same
  cases body with
  | nil =>
    rw [List.nil_append, List.cons.injEq] at same
    exact behind (by rw [same.2]; rfl)
  | cons character body =>
    rw [List.cons_append, List.cons.injEq] at same
    exact first (by rw [same.1]; rfl)

theorem string?_threeQuotes (characters : List Char) :
    string? (List.replicate 3 '"' ++ characters) =
      longBasic? (characters.length + 4) [] (dropLineBreak characters) := rfl

theorem string?_threeApostrophes (characters : List Char) :
    string? (List.replicate 3 '\'' ++ characters) =
      longLiteral? (characters.length + 4) [] (dropLineBreak characters) := rfl

theorem string?_quote {characters : List Char}
    (single : ∀ others, characters ≠ '"' :: '"' :: others) :
    string? ('"' :: characters) = basic? (characters.length + 2) [] characters := by
  unfold string?
  split
  · rename_i same
    cases same
    exact absurd rfl (single _)
  · rename_i same
    cases same
  · rename_i same
    cases same
    rfl
  · rename_i same
    cases same
  · rename_i noQuote _
    exact absurd rfl (noQuote characters)

theorem string?_apostrophe {characters : List Char}
    (single : ∀ others, characters ≠ '\'' :: '\'' :: others) :
    string? ('\'' :: characters) = literal? [] characters := by
  unfold string?
  split
  · rename_i same
    cases same
  · rename_i same
    cases same
    exact absurd rfl (single _)
  · rename_i same
    cases same
  · rename_i same
    cases same
    rfl
  · rename_i noApostrophe
    exact absurd rfl (noApostrophe characters)

theorem dropLineBreak_openingBreak {characters body : List Char}
    (free : '\n' ∉ characters → body.head? ≠ some '\n' ∧ body.head? ≠ some '\r') :
    dropLineBreak (openingBreak characters ++ body) = body := by
  unfold openingBreak
  split
  · rfl
  · rename_i without
    have first := free fun member => without (List.contains_iff_mem.mpr member)
    cases body with
    | nil => rfl
    | cons character body =>
      have kept : lineBreak? (character :: body) = none :=
        lineBreak?_of_ne (by simpa using first.1) (by simpa using first.2)
      rw [List.nil_append, dropLineBreak, kept]
      rfl

theorem head?_long {characters : List Char} (without : '\n' ∉ characters)
    (behind : List Char) :
    (escapeAll 2 true 0 characters ++ (List.replicate 3 '"' ++ behind)).head? ≠ some '\n' ∧
      (escapeAll 2 true 0 characters ++ (List.replicate 3 '"' ++ behind)).head? ≠ some '\r' := by
  cases characters with
  | nil => simp [escapeAll, List.replicate]
  | cons character characters =>
    rcases escapeAll_cons 2 true 0 character characters with
      ⟨_, _, written⟩ | ⟨_, _, stays, written⟩ | ⟨needed, written⟩
    · rw [written]
      simp
    · rw [written]
      rcases stays with plain | ⟨rfl, _⟩
      · simpa using ne_of_isPlain plain
      · exact absurd List.mem_cons_self without
    · obtain ⟨mark, code, escape, _, _⟩ := escape?_escaped [] needed
      rw [written, escape]
      simp

theorem head?_longLiteral {characters : List Char} (without : '\n' ∉ characters)
    (plain : ∀ character ∈ characters, isPlain character ∨ character = '\n')
    (behind : List Char) :
    (characters ++ (List.replicate 3 '\'' ++ behind)).head? ≠ some '\n' ∧
      (characters ++ (List.replicate 3 '\'' ++ behind)).head? ≠ some '\r' := by
  cases characters with
  | nil => simp [List.replicate]
  | cons character characters =>
    rcases plain character List.mem_cons_self with first | rfl
    · simpa using ne_of_isPlain first
    · exact absurd List.mem_cons_self without

/-- What may follow a string: no mark that could belong to it. -/
structure EndsString (rest : List Char) : Prop where
  quote : rest.head? ≠ some '"'
  apostrophe : rest.head? ≠ some '\''

/-- A written string is read back as its text. -/
theorem string?_renderString (text : String) (ends : EndsString rest) :
    string? ((renderString text).toList ++ rest) = some (text, rest) := by
  rcases renderString_cases text with written | ⟨written, plain⟩ | written | ⟨written, plain, short⟩
  · have enough := length_le_escapeAll 0 false text.toList 0
    rw [written, List.cons_append, List.append_assoc, List.singleton_append,
      string?_quote (not_three_of_head? (head?_escapeAll false _) ends.quote),
      basic?_escapeAll rest text.toList (by rw [List.length_append]; omega)]
    simp
  · have first : text.toList.head? ≠ some '\'' := fun head =>
      (plain _ (List.mem_of_head? head)).2 rfl
    rw [written, List.cons_append, List.append_assoc, List.singleton_append,
      string?_apostrophe (not_three_of_head? first ends.apostrophe),
      literal?_append rest text.toList plain]
    simp
  · have enough := length_le_escapeAll 2 true text.toList 0
    rw [written]
    simp only [List.append_assoc]
    rw [string?_threeQuotes, dropLineBreak_openingBreak fun without => head?_long without rest,
      longBasic?_escapeAll ends.quote text.toList (by simp only [List.length_append]; omega) 0
        (Nat.zero_le 2)]
    simp
  · have few (before : List Char) (count : Nat) (after : List Char)
        (whole : text.toList = before ++ (List.replicate count '\'' ++ after)) : count ≤ 2 := by
      have run := le_longestRun '\'' before after count
      rw [← whole] at run
      exact Nat.le_trans run short
    rw [written]
    simp only [List.append_assoc]
    rw [string?_threeApostrophes,
      dropLineBreak_openingBreak fun without => head?_longLiteral without plain rest,
      longLiteral?_append ends.apostrophe text.toList
        (by simp only [List.length_append]; omega) plain few]
    simp

theorem renderString_eq_cons (text : String) :
    ∃ mark characters, (renderString text).toList = mark :: characters ∧
      (mark = '"' ∨ mark = '\'') := by
  rcases renderString_cases text with written | ⟨written, _⟩ | written | ⟨written, _⟩
  · exact ⟨'"', _, written, .inl rfl⟩
  · exact ⟨'\'', _, written, .inr rfl⟩
  · exact ⟨'"', _, written, .inl rfl⟩
  · exact ⟨'\'', _, written, .inr rfl⟩

end ChartDialogue.Toml
