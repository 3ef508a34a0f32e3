import ChartDialogue.Proofs.Json.Editing
import Mathlib.Data.List.Infix

/-! # Laws of writing at a path

What is written at a path is read there. Paths of which neither continues the other do not touch
each other, a second write at a path hides the first one, and writing what is there already changes
nothing.
-/

namespace ChartDialogue

/-! ## Members are told apart by look-ups -/

namespace Members

theorem above_of_find? {floor : Option String} {members : Members floor} {key : String}
    {value : Json} (found : members.find? key = some value) : Above floor key :=
  above_of_mem (mem_toList_of_find? found)

theorem find?_eq_none_of_not_lt {low key : String} (members : Members (some low))
    (notPast : ¬ low < key) : members.find? key = none := by
  cases found : members.find? key with
  | none => rfl
  | some value => exact absurd (above_of_find? found low rfl) notPast

theorem not_lt_of_find?_eq {floor : Option String} {key other : String} {above : Above floor key}
    {otherAbove : Above floor other} {value old : Json} {rest : Members (some key)}
    {others : Members (some other)}
    (same : (cons key above value rest).find? key = (cons other otherAbove old others).find? key) :
    ¬ key < other := by
  intro before
  have different : key ≠ other := fun equal => String.lt_irrefl other (equal ▸ before)
  have absent := find?_eq_none_of_not_lt others (String.lt_asymm before)
  rw [find?, if_pos rfl, find?, if_neg different, absent] at same
  cases same

theorem ext_find? : {floor : Option String} → {left right : Members floor} →
    (∀ key, left.find? key = right.find? key) → left = right
  | _, .nil, .nil, _ => rfl
  | _, .nil, .cons key _ _ _, same => by
    have found := same key
    rw [find?, find?, if_pos rfl] at found
    cases found
  | _, .cons key _ _ _, .nil, same => by
    have found := same key
    rw [find?, find?, if_pos rfl] at found
    cases found
  | _, .cons key above value rest, .cons other otherAbove old others, same => by
    have equal : key = other := by
      by_contra different
      exact not_lt_of_find?_eq (same other).symm
        (lt_of_not_lt_of_ne (not_lt_of_find?_eq (same key)) different)
    subst equal
    have first := same key
    rw [find?, if_pos rfl, find?, if_pos rfl] at first
    cases first
    have behind : ∀ further, rest.find? further = others.find? further := by
      intro further
      by_cases here : further = key
      · subst here
        rw [find?_eq_none_of_not_lt rest (String.lt_irrefl further),
          find?_eq_none_of_not_lt others (String.lt_irrefl further)]
      · have agrees := same further
        rw [find?, if_neg here, find?, if_neg here] at agrees
        exact agrees
    rw [ext_find? behind]

/-- Putting a member in leaves the members as they are when it is there already, but for the sign of
a zero. -/
theorem same_insert_iff {key : String} {value : Json} : {floor : Option String} →
    {above : Above floor key} → (members : Members floor) →
      ((members.insert key above value).same members = true ↔
        ∃ old, members.find? key = some old ∧ value.same old = true)
  | _, _, .nil => by simp [insert, Members.same, find?]
  | _, _, .cons other otherAbove old rest => by
    rw [insert, find?]
    split
    · rename_i before
      have different : key ≠ other := fun equal => String.lt_irrefl other (equal ▸ before)
      have absent := find?_eq_none_of_not_lt rest (String.lt_asymm before)
      simp [Members.same, different, absent]
    · split
      · simp [Members.same, Members.same_self]
      · rw [Members.same, beq_self_eq_true, Json.same_self, Bool.true_and, Bool.true_and]
        exact same_insert_iff rest

end Members

namespace Json

/-! ## The member that a path starts with -/

/-- Where a path goes on behind a key: the member there, or null. -/
def memberOrNull (target : Json) (key : String) : Json := (target.member? key).getD .null

theorem read?_cons (target : Json) (key : String) (rest : List String) :
    target.read? (key :: rest) = (target.member? key).bind fun inner => inner.read? rest := rfl

theorem read?_cons_of_ne_nil (target : Json) (key : String) {rest : List String}
    (goesOn : rest ≠ []) : target.read? (key :: rest) = (target.memberOrNull key).read? rest := by
  rw [read?_cons, memberOrNull]
  cases target.member? key with
  | some inner => rfl
  | none =>
    cases rest with
    | nil => exact absurd rfl goesOn
    | cons next more => rfl

theorem member?_write_cons (target : Json) (key : String) (rest : List String) (value : Json)
    (asked : String) :
    (target.write (key :: rest) value).member? asked =
      if asked = key then some ((target.memberOrNull key).write rest value)
      else target.member? asked := by
  split
  · rename_i equal
    rw [equal, memberOrNull, member?_eq_find? target]
    exact Members.find?_insert_self key _ _ _
  · rename_i different
    apply member?_write_of_head? (List.cons_ne_nil key rest)
    exact fun first => different (Option.some.inj first).symm

theorem memberOrNull_write_cons (target : Json) (key : String) (rest : List String) (value : Json)
    (asked : String) :
    (target.write (key :: rest) value).memberOrNull asked =
      if asked = key then (target.memberOrNull key).write rest value
      else target.memberOrNull asked := by
  rw [memberOrNull, member?_write_cons]
  split <;> rfl

theorem write_cons_ext {left right value other : Json} {key start : String}
    {rest more : List String}
    (same : ∀ asked, (left.write (key :: rest) value).member? asked =
      (right.write (start :: more) other).member? asked) :
    left.write (key :: rest) value = right.write (start :: more) other :=
  congrArg object (Members.ext_find? same)

/-! ## The laws -/

theorem read?_write_self (target value : Json) (path : List String) :
    (target.write path value).read? path = some value := by
  induction path generalizing target with
  | nil => rfl
  | cons key rest induction =>
    rw [read?_cons, member?_write_cons, if_pos rfl]
    exact induction (target.memberOrNull key)

theorem write_write_self (target first second : Json) (path : List String) :
    (target.write path first).write path second = target.write path second := by
  induction path generalizing target with
  | nil => rfl
  | cons key rest induction =>
    apply write_cons_ext
    intro asked
    simp only [member?_write_cons, memberOrNull_write_cons, if_true, induction]
    split <;> rfl

theorem read?_write_of_diverging {path other : List String} (beyond : ¬ path <+: other)
    (before : ¬ other <+: path) (target value : Json) :
    (target.write path value).read? other = target.read? other := by
  induction path generalizing target other with
  | nil => exact absurd List.nil_prefix beyond
  | cons key rest induction =>
    cases other with
    | nil => exact absurd List.nil_prefix before
    | cons start more =>
      by_cases equal : start = key
      · subst equal
        rw [List.cons_prefix_cons, not_and] at beyond before
        have goesOn : more ≠ [] := fun empty => before rfl (empty ▸ List.nil_prefix)
        rw [read?_cons_of_ne_nil _ _ goesOn, read?_cons_of_ne_nil _ _ goesOn,
          memberOrNull_write_cons, if_pos rfl]
        exact induction (beyond rfl) (before rfl) (target.memberOrNull start)
      · rw [read?_cons, read?_cons, member?_write_cons, if_neg equal]

theorem write_comm_of_diverging {path other : List String} (beyond : ¬ path <+: other)
    (before : ¬ other <+: path) (target first second : Json) :
    (target.write path first).write other second =
      (target.write other second).write path first := by
  induction path generalizing target other with
  | nil => exact absurd List.nil_prefix beyond
  | cons key rest induction =>
    cases other with
    | nil => exact absurd List.nil_prefix before
    | cons start more =>
      apply write_cons_ext
      intro asked
      simp only [member?_write_cons, memberOrNull_write_cons]
      by_cases equal : start = key
      · subst equal
        rw [List.cons_prefix_cons, not_and] at beyond before
        rw [if_pos rfl, if_pos rfl, induction (beyond rfl) (before rfl)]
        split <;> rfl
      · -- Each write replaces its own member, so the one that is asked for has one writer.
        rw [if_neg equal, if_neg (Ne.symm equal)]
        by_cases here : asked = start
        · rw [if_pos here, if_neg (here ▸ equal)]
          exact (if_pos here).symm
        · rw [if_neg here]
          split <;> rfl

theorem write_eq_self_iff (target value : Json) (path : List String) :
    target.write path value = target ↔ target.read? path = some value := by
  constructor
  · intro unchanged
    have found := read?_write_self target value path
    rw [unchanged] at found
    exact found
  · induction path generalizing target with
    | nil => exact fun found => (Option.some.inj found).symm
    | cons key rest induction =>
      intro found
      rcases Option.bind_eq_some_iff.mp found with ⟨inner, member, read⟩
      cases target with
      | object members =>
        apply congrArg object
        apply Members.ext_find?
        intro asked
        have written := member?_write_cons (.object members) key rest value asked
        rw [memberOrNull, member, Option.getD_some, induction inner read] at written
        refine written.trans ?_
        split
        · rename_i here
          rw [here, ← member]
          rfl
        · rfl
      | _ => cases member

theorem same_write_iff (target value : Json) (path : List String) :
    (target.write path value).same target = true ↔
      ∃ old, target.read? path = some old ∧ value.same old = true := by
  induction path generalizing target with
  | nil => simp [write, read?]
  | cons key rest induction =>
    cases target with
    | object members =>
      have member : (object members).read? (key :: rest) =
          (members.find? key).bind fun inner => inner.read? rest := rfl
      rw [write, Json.same, membersOrNone, Members.same_insert_iff, member]
      cases members.find? key with
      | none => simp
      | some inner => simpa using induction inner
    | _ => simp [write, Json.same, read?_cons, member?, asObject?]

end Json

end ChartDialogue
