import ChartDialogue.Proofs.Engine.Proposals
import ChartDialogue.Proofs.Json.Editing
import ChartDialogue.Suggest.Modification
import Mathlib.Data.List.ReduceOption

/-! # What is suggested for a chart

Every suggestion writes one value at one listed path: a value that is proposed for the path, which
is not empty, as nothing is proposed for the empty path. The suggestions are what a number of
attempts has found, one after the other; each attempt draws one path, and they end when enough is
found.
-/

namespace ChartDialogue.Suggest

variable {σ : Type} [WordSource σ]

/-- A suggestion to write a value at a path of a chart, and nothing else. -/
structure IsChange (σ : Type) [WordSource σ] (engine : Engine) (plot : Json) (path : SimplePath)
    (value : TypedValue) (suggested : Derivation) : Prop where
  listed : path ∈ engine.paths.paths
  named : path.segments ≠ []
  proposed : ∃ source : σ, value ∈ (engine.pool path.segments source).1
  written : suggested.value = plot.write path.segments value.literal
  differs : suggested.value.same plot = false
  formula : suggested.formula = "(set " ++ path.dotted ++ " " ++ value.literal.compact ++ ")"
  unscored : suggested.score = Double.zero
  kept : ∀ key, path.segments.head? ≠ some key → suggested.value.member? key = plot.member? key

theorem path?_mem {index : PathIndex} {position : Nat} {path : SimplePath}
    (found : index.path? position = some path) : path ∈ index.paths :=
  List.mem_of_getElem? found

theorem pool_nil (engine : Engine) (source : σ) : (engine.pool [] source).1 = [] := rfl

theorem draw?_mem_pool {engine : Engine} {query : List String} {source : σ} {value : TypedValue}
    (drawn : (engine.draw? query source).1 = some value) :
    value ∈ (engine.pool query source).1 :=
  Engine.mem_of_choose drawn

theorem isChange_change {engine : Engine} {plot : Json} {path : SimplePath} {value : TypedValue}
    {source : σ} (listed : path ∈ engine.paths.paths)
    (proposed : value ∈ (engine.pool path.segments source).1)
    (differs : (change plot path value.literal).value.same plot = false) :
    IsChange σ engine plot path value (change plot path value.literal) := by
  have named : path.segments ≠ [] := by
    intro empty
    rw [empty, pool_nil] at proposed
    cases proposed
  exact {
    listed, named, differs
    proposed := ⟨source, proposed⟩
    written := rfl
    formula := rfl
    unscored := rfl
    kept := fun _ other => Json.member?_write_of_head? named other plot value.literal }

theorem isChange_of_attempt {engine : Engine} {plot : Json} {source : σ} {suggested : Derivation}
    (found : (attempt engine plot source).1 = some suggested) :
    ∃ path value, IsChange σ engine plot path value suggested := by
  unfold attempt at found
  dsimp only at found
  split at found
  · cases found
  · rename_i path listed
    split at found
    · cases found
    · rename_i value later drawn
      have proposed := draw?_mem_pool (congrArg Prod.fst drawn)
      dsimp only at found
      split at found
      · cases found
      · rename_i differs
        cases found
        exact ⟨path, value, isChange_change (path?_mem listed) proposed (by simpa using differs)⟩

/-! ## Attempts one after the other -/

def tries (engine : Engine) (plot : Json) : (count : Nat) → Draw σ (List (Option Derivation))
  | 0 => pure []
  | count + 1 => fun source =>
    let first := attempt engine plot source
    let others := tries engine plot count first.2
    (first.1 :: others.1, others.2)

theorem tries_succ {engine : Engine} {plot : Json} {source later : σ} {found : Option Derivation}
    (first : attempt engine plot source = (found, later)) (count : Nat) :
    tries engine plot (count + 1) source =
      (found :: (tries engine plot count later).1, (tries engine plot count later).2) := by
  simp only [tries, first]

theorem attempts_of_none {engine : Engine} {plot : Json} {source later : σ}
    (first : attempt engine plot source = (none, later)) (times wanted : Nat) :
    attempts engine plot (times + 1) (wanted + 1) source =
      attempts engine plot times (wanted + 1) later := by
  simp only [attempts, first]

theorem attempts_of_some {engine : Engine} {plot : Json} {source later : σ} {change : Derivation}
    (first : attempt engine plot source = (some change, later)) (times wanted : Nat) :
    attempts engine plot (times + 1) (wanted + 1) source =
      (change :: (attempts engine plot times wanted later).1,
        (attempts engine plot times wanted later).2) := by
  simp only [attempts, first]

theorem exists_attempt_of_mem_tries {engine : Engine} {plot : Json} {found : Option Derivation}
    (count : Nat) {source : σ} (member : found ∈ (tries engine plot count source).1) :
    ∃ later : σ, (attempt engine plot later).1 = found := by
  induction count generalizing source with
  | zero => cases member
  | succ count induction =>
    rcases List.mem_cons.mp member with equal | member
    · exact ⟨source, equal.symm⟩
    · exact induction member

/-- Changes are looked for in a number of attempts: no more than allowed, and fewer only when enough
are found. -/
theorem exists_tries_of_attempts (engine : Engine) (plot : Json) (times wanted : Nat)
    (source : σ) :
    ∃ count ≤ times,
      attempts engine plot times wanted source =
        ((tries engine plot count source).1.reduceOption, (tries engine plot count source).2) ∧
      (attempts engine plot times wanted source).1.length ≤ wanted ∧
      (count < times → (attempts engine plot times wanted source).1.length = wanted) := by
  -- Every attempt counts, also one that finds nothing; only a found change is one wanted less.
  induction times generalizing wanted source with
  | zero => exact ⟨0, Nat.le_refl 0, rfl, Nat.zero_le wanted, fun impossible => nomatch impossible⟩
  | succ times induction =>
    cases wanted with
    | zero => exact ⟨0, Nat.zero_le _, rfl, Nat.le_refl 0, fun _ => rfl⟩
    | succ wanted =>
      cases first : attempt engine plot source with
      | mk found later =>
        cases found with
        | none =>
          rcases induction (wanted + 1) later with ⟨count, bounded, result, few, enough⟩
          rw [attempts_of_none first]
          refine ⟨count + 1, Nat.succ_le_succ bounded, ?_, few, fun less => enough (by omega)⟩
          rw [result, tries_succ first]
          rfl
        | some change =>
          rcases induction wanted later with ⟨count, bounded, result, few, enough⟩
          rw [attempts_of_some first, List.length_cons]
          refine ⟨count + 1, Nat.succ_le_succ bounded, ?_, Nat.succ_le_succ few,
            fun less => congrArg Nat.succ (enough (by omega))⟩
          rw [result, tries_succ first]
          rfl

theorem exists_tries_of_modification (engine : Engine) (plot : Json) (amount : Nat) (source : σ) :
    ∃ count ≤ min amount limit * attemptsPerChange,
      modification engine plot amount source =
        ((tries engine plot count source).1.reduceOption, (tries engine plot count source).2) ∧
      (modification engine plot amount source).1.length ≤ min amount limit := by
  unfold modification
  split
  · exact ⟨0, Nat.zero_le _, rfl, Nat.zero_le _⟩
  · rcases exists_tries_of_attempts engine plot (min amount limit * attemptsPerChange)
        (min amount limit) source with ⟨count, bounded, result, few, _⟩
    exact ⟨count, bounded, result, few⟩

theorem isChange_of_mem_modification {engine : Engine} {plot : Json} {amount : Nat} {source : σ}
    {suggested : Derivation} (member : suggested ∈ (modification engine plot amount source).1) :
    ∃ path value, IsChange σ engine plot path value suggested := by
  rcases exists_tries_of_modification engine plot amount source with ⟨count, _, result, _⟩
  rw [result] at member
  have inside := List.reduceOption_mem_iff.mp member
  rcases exists_attempt_of_mem_tries count inside with ⟨later, result⟩
  exact isChange_of_attempt result

end ChartDialogue.Suggest
