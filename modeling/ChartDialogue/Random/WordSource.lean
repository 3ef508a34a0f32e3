/-! # Sources of random words

Everything drawn comes from words of 32 or 64 bits. A source gives a word and the source for the
next one.
-/

namespace ChartDialogue

inductive WordWidth where
  | narrow
  | wide
deriving DecidableEq, Repr

def WordWidth.bits : WordWidth → Nat
  | .narrow => 32
  | .wide => 64

class WordSource (σ : Type) where
  narrow : σ → UInt32 × σ
  wide : σ → UInt64 × σ

def WordSource.next {σ : Type} [WordSource σ] (width : WordWidth) (source : σ) : Nat × σ :=
  match width with
  | .narrow => ((WordSource.narrow source).1.toNat, (WordSource.narrow source).2)
  | .wide => ((WordSource.wide source).1.toNat, (WordSource.wide source).2)

theorem WordSource.next_lt {σ : Type} [WordSource σ] (width : WordWidth) (source : σ) :
    (WordSource.next width source).1 < Nat.pow 2 width.bits := by
  cases width with
  | narrow => exact UInt32.toNat_lt _
  | wide => exact UInt64.toNat_lt _

/-! ## A mixed counter -/

/-- A counter whose scrambled values are the words. -/
structure MixedCounter where
  count : UInt64
deriving DecidableEq, Inhabited

namespace MixedCounter

def increment : UInt64 := 0x9E3779B97F4A7C15

def mix (word : UInt64) : UInt64 :=
  let first := (word ^^^ (word >>> 30)) * 0xBF58476D1CE4E5B9
  let second := (first ^^^ (first >>> 27)) * 0x94D049BB133111EB
  second ^^^ (second >>> 31)

def nextWide (counter : MixedCounter) : UInt64 × MixedCounter :=
  let count := counter.count + increment
  (mix count, ⟨count⟩)

/-- A narrow word is the upper half of a wide one. -/
def nextNarrow (counter : MixedCounter) : UInt32 × MixedCounter :=
  let (word, counter) := counter.nextWide
  ((word >>> 32).toUInt32, counter)

instance : WordSource MixedCounter := ⟨nextNarrow, nextWide⟩

example : ((⟨0⟩ : MixedCounter).nextWide).1 = 0xE220A8397B1DCDAF := by decide +kernel

end MixedCounter

end ChartDialogue
