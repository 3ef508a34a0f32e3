import ChartDialogue.Proofs.Engine.Proposals
import ChartDialogue.Proofs.Random.Uniform

/-! # Draws are uniform

The choice from a pool is made by the words that come behind those of the pool. To vary them, words
are put ahead of a source. They are left alone while the pool is made; then the first one that is
taken decides, and every position of the pool is chosen by the same number of words.
-/

namespace ChartDialogue

variable {σ : Type} [WordSource σ]

structure Ahead (σ : Type) where
  words : List UInt32
  source : σ

namespace Ahead

instance : WordSource (Ahead σ) where
  narrow ahead :=
    match ahead.words with
    | word :: later => (word, ⟨later, ahead.source⟩)
    | [] => ((WordSource.narrow ahead.source).1, ⟨[], (WordSource.narrow ahead.source).2⟩)
  wide ahead :=
    ((WordSource.wide ahead.source).1, ⟨ahead.words, (WordSource.wide ahead.source).2⟩)

end Ahead

namespace Draw

/-! ## Wide words -/

theorem firstAccepted_wide_ahead (count : Nat) (words : List UInt32) (patience : Nat)
    (source : σ) :
    firstAccepted .wide count patience (⟨words, source⟩ : Ahead σ) =
      ((firstAccepted .wide count patience source).1,
        ⟨words, (firstAccepted .wide count patience source).2⟩) := by
  induction patience generalizing source with
  | zero => rfl
  | succ patience induction =>
    have next : WordSource.next .wide (⟨words, source⟩ : Ahead σ) =
        ((WordSource.next .wide source).1, ⟨words, (WordSource.next .wide source).2⟩) := rfl
    rw [firstAccepted, firstAccepted]
    dsimp only
    rw [next]
    dsimp only
    split
    · rfl
    · exact induction _

theorem below_wide_ahead (count : Nat) (words : List UInt32) (source : σ) :
    below .wide count (⟨words, source⟩ : Ahead σ) =
      ((below .wide count source).1, ⟨words, (below .wide count source).2⟩) :=
  firstAccepted_wide_ahead count words patience source

/-! ## Narrow words -/

theorem firstAccepted_ahead {count : Nat} (positive : 0 < count) (small : count < 2 ^ 32)
    {word : UInt32} (takes : Takes count word) (later : List UInt32) (source : σ) :
    {patience : Nat} → (passed : List UInt32) → passed.length ≤ patience →
      (∀ other ∈ passed, ¬ Takes count other) →
      firstAccepted .narrow count patience (⟨passed ++ word :: later, source⟩ : Ahead σ) =
        (numberOf count word, ⟨later, source⟩)
  | 0, [], _, _ => rfl
  | patience + 1, [], _, _ => by
    have next : WordSource.next .narrow (⟨word :: later, source⟩ : Ahead σ) =
        (word.toNat, ⟨later, source⟩) := rfl
    have accepted := (accepts_iff_takes positive small word).mpr takes
    rw [firstAccepted, List.nil_append]
    dsimp only
    rw [next]
    exact if_pos accepted
  | patience + 1, other :: passed, within, rejected => by
    have next : WordSource.next .narrow (⟨other :: passed ++ word :: later, source⟩ : Ahead σ) =
        (other.toNat, ⟨passed ++ word :: later, source⟩) := rfl
    have refused : ¬ accepts 32 count other.toNat = true :=
      (accepts_iff_takes positive small other).not.mpr (rejected other List.mem_cons_self)
    have rest := firstAccepted_ahead positive small takes later source passed
      (Nat.le_of_succ_le_succ within)
      fun another member => rejected another (List.mem_cons_of_mem other member)
    rw [firstAccepted, ← rest]
    dsimp only
    rw [next]
    exact if_neg refused

theorem choose_ahead {α : Type} {values : List α} (positive : 0 < values.length)
    (small : values.length < 2 ^ 32) {word : UInt32} (takes : Takes values.length word)
    {passed : List UInt32} (within : passed.length ≤ patience)
    (rejected : ∀ other ∈ passed, ¬ Takes values.length other) (later : List UInt32)
    (source : σ) :
    choose values (⟨passed ++ word :: later, source⟩ : Ahead σ) =
      (values[numberOf values.length word]?, ⟨later, source⟩) := by
  cases values with
  | nil => cases positive
  | cons first rest =>
    have width : choiceWidth (first :: rest).length = .narrow := if_pos small
    rw [choose]
    dsimp only
    rw [width, below, firstAccepted_ahead positive small takes later source passed within rejected]

end Draw

namespace Engine

/-! ## Pools -/

/-- Numbers are proposed by wide words, and nothing else is drawn. -/
theorem propose_ahead (rule : Rule) (slot : Slot) (words : List UInt32) (source : σ) :
    rule.propose slot (⟨words, source⟩ : Ahead σ) =
      ((rule.propose slot source).1, ⟨words, (rule.propose slot source).2⟩) := by
  cases rule with
  | number => simp only [Rule.propose, Draw.below_wide_ahead]
  | color | field | font | enumeration | boolean | generic => rfl

theorem proposals_ahead (rules : List Rule) (slot : Slot) (words : List UInt32) (source : σ) :
    proposals rules slot (⟨words, source⟩ : Ahead σ) =
      ((proposals rules slot source).1, ⟨words, (proposals rules slot source).2⟩) := by
  cases governs : governing? rules slot with
  | none =>
    rw [proposals, proposals, governs]
    rfl
  | some rule =>
    rw [proposals_of_governing governs, proposals_of_governing governs]
    exact propose_ahead rule slot words source

theorem poolOfSlots_ahead (rules : List Rule) (words : List UInt32) :
    (slots : List Slot) → (source : σ) →
      poolOfSlots rules slots (⟨words, source⟩ : Ahead σ) =
        ((poolOfSlots rules slots source).1, ⟨words, (poolOfSlots rules slots source).2⟩)
  | [], _ => rfl
  | slot :: rest, source => by
    have own := proposals_ahead rules slot words source
    have others := poolOfSlots_ahead rules words rest (proposals rules slot source).2
    rw [poolOfSlots]
    dsimp only
    rw [own]
    dsimp only
    rw [others]
    rfl

theorem pool_ahead (engine : Engine) (query : List String) (words : List UInt32) (source : σ) :
    engine.pool query (⟨words, source⟩ : Ahead σ) =
      ((engine.pool query source).1, ⟨words, (engine.pool query source).2⟩) :=
  poolOfSlots_ahead engine.rules words _ source

def drawnBy (engine : Engine) (query : List String) (source : σ) (words : List UInt32) :
    Except CheckFault (List TypedValue) :=
  (engine.values query none (⟨words, source⟩ : Ahead σ)).1

theorem drawnBy_eq {engine : Engine} {query : List String} {source : σ}
    (positive : 0 < (engine.pool query source).1.length)
    (small : (engine.pool query source).1.length < 2 ^ 32) {word : UInt32}
    (takes : Draw.Takes (engine.pool query source).1.length word) {passed : List UInt32}
    (within : passed.length ≤ Draw.patience)
    (rejected : ∀ other ∈ passed, ¬ Draw.Takes (engine.pool query source).1.length other)
    (later : List UInt32) :
    engine.drawnBy query source (passed ++ word :: later) =
      .ok ((engine.pool query source).1[
        Draw.numberOf (engine.pool query source).1.length word]?).toList := by
  have chosen := Draw.choose_ahead positive small takes within rejected later
    (engine.pool query source).2
  rw [drawnBy, values]
  dsimp only
  rw [draw?, pool_ahead]
  dsimp only
  rw [chosen]

/-- Of all narrow words, as many lead to one position of a pool as to any other: two to the power of
the leading zeros of its length. A word that is taken gives the value at its position, whatever
words were rejected before it within the patience of a draw. So a value is drawn by as many words as
its occurrences have.

A sampler would reject words without a bound. A draw here stops after 1000 rejections and takes the
next word as it is, so nothing is said of words that come behind more rejections than that. -/
theorem uniform_draws (engine : Engine) (query : List String) (source : σ)
    (positive : 0 < (engine.pool query source).1.length)
    (small : (engine.pool query source).1.length < 2 ^ 32) :
    let pool := (engine.pool query source).1
    let takes := Draw.Takes pool.length
    let position := Draw.numberOf pool.length
    let share := 2 ^ Draw.leadingZeros pool.length
    (∀ place < pool.length, {word | takes word ∧ position word = place}.ncard = share) ∧
    (∀ word, takes word → ∃ below : position word < pool.length,
      ∀ passed later, passed.length ≤ Draw.patience → (∀ other ∈ passed, ¬ takes other) →
        engine.drawnBy query source (passed ++ word :: later) = .ok [pool[position word]]) ∧
    ∀ value, {word | takes word ∧ engine.drawnBy query source [word] = .ok [value]}.ncard =
      pool.count value * share := by
  intro pool takes position share
  refine ⟨fun place below => Draw.ncard_takes positive small below, ?_, ?_⟩
  · intro word taken
    have below := Draw.numberOf_lt positive word
    refine ⟨below, fun passed later within rejected => ?_⟩
    rw [drawnBy_eq positive small taken within rejected later, List.getElem?_eq_getElem below]
    rfl
  · intro value
    have counted := Draw.ncard_takes_value value positive small
    rw [← counted]
    congr 1
    ext word
    apply and_congr_right
    intro taken
    have below := Draw.numberOf_lt positive word
    have drawn := drawnBy_eq positive small taken (Nat.zero_le _)
      (fun other member => absurd member List.not_mem_nil) []
    rw [List.nil_append] at drawn
    rw [drawn, List.getElem?_eq_getElem below]
    simp

/-- Each of three fonts is drawn by a quarter of the words. The last quarter is rejected, like the
first word here, which leaves the draw to the second one. -/
theorem uniform_draws_of_fonts :
    let engine := (Resources.build choicesGrammar StringSet.empty {}).engine
    let source : MixedCounter := ⟨0⟩
    let pool := (engine.pool ["font"] source).1
    0 < pool.length ∧ pool.length < 2 ^ 32 ∧
      {word | Draw.Takes pool.length word ∧ Draw.numberOf pool.length word = 2}.ncard = 2 ^ 30 ∧
      engine.drawnBy ["font"] source [0x55555555, 0xC0000000] =
        .ok [⟨.string "cursive", .string⟩] := by
  intro engine source pool
  have length : pool.length = 3 := by decide +kernel
  have positive : 0 < pool.length := by omega
  have small : pool.length < 2 ^ 32 := by omega
  have uniform := uniform_draws engine ["font"] source positive small
  refine ⟨positive, small, ?_, ?_⟩
  · have zeros : Draw.leadingZeros pool.length = 30 := by
      rw [length]
      decide +kernel
    have inRange : 2 < pool.length := by omega
    rw [← zeros]
    exact uniform.1 2 inRange
  · have taken : Draw.Takes pool.length 0xC0000000 := by
      rw [length]
      decide +kernel
    have rejected : ∀ other ∈ [0x55555555], ¬ Draw.Takes pool.length other := by
      intro other member
      rw [List.mem_singleton.mp member, length]
      decide +kernel
    have place : Draw.numberOf pool.length 0xC0000000 = 2 := by
      rw [length]
      decide +kernel
    have last : pool[2]? = some ⟨.string "cursive", .string⟩ := by decide +kernel
    rcases uniform.2.1 0xC0000000 taken with ⟨below, drawn⟩
    have found := drawn [0x55555555] [] (by decide) rejected
    rw [← place, List.getElem?_eq_getElem below] at last
    rw [Option.some.inj last] at found
    exact found

end Engine

end ChartDialogue
