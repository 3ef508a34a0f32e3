/-! # Distinct members of a list

The first occurrence of every member, in the order of the list.
-/

namespace ChartDialogue

variable {α : Type} [DecidableEq α]

def distinct : List α → List α
  | [] => []
  | first :: rest => first :: (distinct rest).filter (· ≠ first)

@[simp] theorem mem_distinct {value : α} : {list : List α} →
    (value ∈ distinct list ↔ value ∈ list)
  | [] => by simp [distinct]
  | first :: rest => by
    by_cases equal : value = first <;> simp [distinct, equal, mem_distinct]

theorem nodup_distinct : (list : List α) → (distinct list).Nodup
  | [] => List.nodup_nil
  | first :: rest => by
    rw [distinct, List.nodup_cons]
    exact ⟨by simp, (nodup_distinct rest).filter _⟩

example : distinct [1, 2, 1, 3, 2] = [1, 2, 3] := by decide

end ChartDialogue
