import ChartDialogue.Json.Edit

/-! # What writing leaves alone

A value that is written at a path changes one member of an object; all other members stay. Whether
anything has changed is told by sameness, which holds between a value and itself.
-/

namespace ChartDialogue

mutual
theorem Json.same_self : (value : Json) → value.same value = true
  | .null => rfl
  | .bool _ => by simp [Json.same]
  | .number (.integer _) => by simp [Json.same, Number.same]
  | .number (.double number) => number.sameNumber_self
  | .string _ => by simp [Json.same]
  | .array elements => by rw [Json.same]; exact sameElements_self elements
  | .object members => by rw [Json.same]; exact Members.same_self members

theorem sameElements_self : (elements : List Json) → sameElements elements elements = true
  | [] => rfl
  | value :: rest => by simp [sameElements, Json.same_self value, sameElements_self rest]

theorem Members.same_self {floor : Option String} : (members : Members floor) →
    members.same members = true
  | .nil => rfl
  | .cons _ _ value rest => by simp [Members.same, Json.same_self value, Members.same_self rest]
end

namespace Json

theorem ne_of_not_same {left right : Json} (differs : left.same right = false) : left ≠ right := by
  rintro rfl
  rw [same_self] at differs
  cases differs

theorem member?_eq_find? (value : Json) (key : String) :
    value.member? key = value.membersOrNone.find? key := by
  cases value <;> rfl

theorem member?_write_of_head? {path : List String} {key : String} (asked : path ≠ [])
    (other : path.head? ≠ some key) (target value : Json) :
    (target.write path value).member? key = target.member? key := by
  cases path with
  | nil => exact absurd rfl asked
  | cons head rest =>
    have different : key ≠ head := fun equal => other (congrArg some equal.symm)
    rw [member?_eq_find? target]
    exact Members.find?_insert_of_ne different _ _ _

end Json

end ChartDialogue
