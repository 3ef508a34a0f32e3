import ChartDialogue.Number.Double
import ChartDialogue.Number.Word
import ChartDialogue.Collection.StringMap

/-! # JSON values

Numbers are integers of the 64-bit range or doubles, and the two never mix: `1` is not `1.0`. The
members of an object are in strictly ascending key order by construction, so an object has one
representation and every listing of it is sorted.
-/

namespace ChartDialogue

structure WordInteger where
  value : Int
  low : -Word.signedLimit ≤ value
  high : value < Word.limit

namespace WordInteger

instance : DecidableEq WordInteger := fun left right =>
  if equal : left.value = right.value then
    isTrue (by cases left; cases right; cases equal; rfl)
  else
    isFalse fun same => equal (by rw [same])

def ofInt? (value : Int) : Option WordInteger :=
  if fits : -Word.signedLimit ≤ value ∧ value < Word.limit then some ⟨value, fits.1, fits.2⟩
  else none

instance : Inhabited WordInteger := ⟨⟨0, by decide, by decide⟩⟩

/-- A natural number of a word, and the remainder of a larger one. -/
def ofNat (number : Nat) : WordInteger :=
  ⟨(number % Word.limit : Nat), by simp only [Word.signedLimit]; omega, by
    simp only [Word.limit]; omega⟩

end WordInteger

inductive Number where
  | integer (value : WordInteger)
  | double (value : Double)
deriving DecidableEq

/-- A key that lies past the floor, if there is one. -/
def Above (floor : Option String) (key : String) : Prop :=
  ∀ low, floor = some low → low < key

theorem above_none (key : String) : Above none key := fun _ impossible => nomatch impossible

theorem above_some {low key : String} (less : low < key) : Above (some low) key := by
  intro other equal
  cases equal
  exact less

mutual
inductive Json where
  | null
  | bool (value : Bool)
  | number (value : Number)
  | string (value : String)
  | array (elements : List Json)
  | object (members : Members none)

/-- Object members in ascending key order, all past a floor. -/
inductive Members : Option String → Type where
  | nil {floor : Option String} : Members floor
  | cons {floor : Option String} (key : String) (above : Above floor key) (value : Json)
      (rest : Members (some key)) : Members floor
end

instance : Inhabited Json := ⟨.null⟩

namespace Members

def toList {floor : Option String} : Members floor → List (String × Json)
  | .nil => []
  | .cons key _ value rest => (key, value) :: rest.toList

def find? {floor : Option String} (key : String) : Members floor → Option Json
  | .nil => none
  | .cons other _ value rest => if key = other then some value else rest.find? key

def contains {floor : Option String} (members : Members floor) (key : String) : Bool :=
  (members.find? key).isSome

def isEmpty {floor : Option String} : Members floor → Bool
  | .nil => true
  | .cons .. => false

def lower {floor new : Option String} (lowered : ∀ key, Above floor key → Above new key) :
    Members floor → Members new
  | .nil => .nil
  | .cons key above value rest => .cons key (lowered key above) value rest

def insert {floor : Option String} (key : String) (above : Above floor key) (value : Json) :
    Members floor → Members floor
  | .nil => .cons key above value .nil
  | .cons other otherAbove old rest =>
    if before : key < other then
      .cons key above value (.cons other (above_some before) old rest)
    else if equal : key = other then
      .cons other otherAbove value rest
    else
      .cons other otherAbove old
        (rest.insert key (above_some (lt_of_not_lt_of_ne before equal)) value)

theorem above_of_above_some {floor : Option String} {key other : String}
    (above : Above floor key) (past : Above (some key) other) : Above floor other := by
  intro low equal
  exact String.lt_trans (above low equal) (past key rfl)

def filter (keep : String → Bool) {floor : Option String} : Members floor → Members floor
  | .nil => .nil
  | .cons key above value rest =>
    if keep key then .cons key above value (rest.filter keep)
    else (rest.filter keep).lower fun _ past => above_of_above_some above past

def ofList (entries : List (String × Json)) : Members none :=
  entries.foldl (fun members entry => members.insert entry.1 (above_none _) entry.2) .nil

/-! ## Members as a list of entries -/

variable {floor : Option String}

theorem toList_lower {new : Option String} (lowered : ∀ key, Above floor key → Above new key)
    (members : Members floor) : (members.lower lowered).toList = members.toList := by
  cases members <;> rfl

theorem toList_filter (keep : String → Bool) : {floor : Option String} →
    (members : Members floor) →
      (members.filter keep).toList = members.toList.filter fun entry => keep entry.1
  | _, .nil => rfl
  | _, .cons key above value rest => by
    rw [filter, toList, List.filter_cons, ← toList_filter keep rest]
    split
    · rfl
    · rw [toList_lower]

theorem toList_insert (key : String) : {floor : Option String} → (above : Above floor key) →
    (value : Json) → (members : Members floor) →
      (members.insert key above value).toList = Entries.insert key value members.toList
  | _, _, _, .nil => rfl
  | _, _, value, .cons other otherAbove old rest => by
    simp only [insert, toList, Entries.insert]
    split
    · rfl
    · split
      · rename_i equal
        subst equal
        rfl
      · simp only [toList]
        rw [toList_insert key _ value rest]

theorem toList_ofList (entries : List (String × Json)) :
    (ofList entries).toList = Entries.ofList entries := by
  suffices general : ∀ (members : Members none),
      (entries.foldl (fun members entry => members.insert entry.1 (above_none _) entry.2)
        members).toList =
      entries.foldl (fun sorted entry => Entries.insert entry.1 entry.2 sorted) members.toList from
    general .nil
  induction entries with
  | nil => intro members; rfl
  | cons entry rest induction =>
    intro members
    rw [List.foldl_cons, List.foldl_cons, induction, toList_insert]

theorem above_of_mem {key : String} {value : Json} :
    {floor : Option String} → {members : Members floor} →
      (key, value) ∈ members.toList → Above floor key
  | _, .cons _ above _ _, member => by
    rcases List.mem_cons.mp member with equal | member
    · cases equal; exact above
    · exact above_of_above_some above (above_of_mem member)

theorem ascending_toList : {floor : Option String} → (members : Members floor) →
    Entries.Ascending members.toList
  | _, .nil => List.Pairwise.nil
  | _, .cons key _ _ rest =>
    List.pairwise_cons.mpr
      ⟨fun entry member =>
        above_of_mem (show (entry.1, entry.2) ∈ rest.toList from member) key rfl,
        ascending_toList rest⟩

theorem toList_injective : {floor : Option String} → {left right : Members floor} →
    left.toList = right.toList → left = right
  | _, .nil, .nil, _ => rfl
  | _, .nil, .cons .., equal => nomatch equal
  | _, .cons .., .nil, equal => nomatch equal
  | _, .cons key above value rest, .cons other otherAbove old others, equal => by
    simp only [toList, List.cons.injEq, Prod.mk.injEq] at equal
    obtain ⟨⟨keyEqual, valueEqual⟩, restEqual⟩ := equal
    subst keyEqual
    subst valueEqual
    rw [toList_injective restEqual]

@[simp] theorem ofList_toList (members : Members none) : ofList members.toList = members :=
  toList_injective (by
    rw [toList_ofList, Entries.ofList_of_ascending members.ascending_toList])

theorem find?_eq_lookup (key : String) : {floor : Option String} → (members : Members floor) →
    members.find? key = members.toList.lookup key
  | _, .nil => rfl
  | _, .cons other _ value rest => by
    rw [find?, toList, find?_eq_lookup key rest]
    by_cases equal : key = other
    · subst equal; rw [if_pos rfl, Entries.lookup_cons_self]
    · rw [if_neg equal, Entries.lookup_cons_of_ne equal]

theorem find?_insert_self (key : String) (above : Above floor key) (value : Json)
    (members : Members floor) : (members.insert key above value).find? key = some value := by
  rw [find?_eq_lookup, toList_insert, Entries.lookup_insert_self]

theorem find?_insert_of_ne {key other : String} (different : other ≠ key)
    (above : Above floor key) (value : Json) (members : Members floor) :
    (members.insert key above value).find? other = members.find? other := by
  rw [find?_eq_lookup, toList_insert, Entries.lookup_insert_of_ne different, ← find?_eq_lookup]

theorem mem_toList_of_find? {key : String} {value : Json} :
    {floor : Option String} → {members : Members floor} → members.find? key = some value →
      (key, value) ∈ members.toList
  | _, .nil, found => nomatch found
  | _, .cons other _ old rest, found => by
    simp only [find?] at found
    split at found
    · rename_i equal
      subst equal
      cases found
      exact List.mem_cons_self
    · exact List.mem_cons_of_mem _ (mem_toList_of_find? found)

end Members

/-! ## Equality -/

mutual
def Json.equal : Json → Json → Bool
  | .null, .null => true
  | .bool left, .bool right => left == right
  | .number left, .number right => decide (left = right)
  | .string left, .string right => left == right
  | .array left, .array right => equalElements left right
  | .object left, .object right => left.equal right
  | _, _ => false

def equalElements : List Json → List Json → Bool
  | [], [] => true
  | left :: lefts, right :: rights => left.equal right && equalElements lefts rights
  | _, _ => false

def Members.equal {first second : Option String} : Members first → Members second → Bool
  | .nil, .nil => true
  | .cons key _ value rest, .cons other _ old others =>
    key == other && value.equal old && rest.equal others
  | _, _ => false
end

mutual
theorem Json.eq_of_equal : (left right : Json) → left.equal right = true → left = right
  | .null, right, equal => by cases right <;> simp_all [Json.equal]
  | .bool _, right, equal => by cases right <;> simp_all [Json.equal]
  | .number _, right, equal => by cases right <;> simp_all [Json.equal]
  | .string _, right, equal => by cases right <;> simp_all [Json.equal]
  | .array lefts, right, equal => by
    cases right with
    | array rights =>
      rw [Json.equal] at equal
      rw [eq_of_equalElements lefts rights equal]
    | _ => simp [Json.equal] at equal
  | .object lefts, right, equal => by
    cases right with
    | object rights =>
      rw [Json.equal] at equal
      rw [Members.toList_injective (Members.toList_eq_of_equal lefts rights equal)]
    | _ => simp [Json.equal] at equal

theorem eq_of_equalElements : (lefts rights : List Json) → equalElements lefts rights = true →
    lefts = rights
  | [], rights, equal => by cases rights <;> simp_all [equalElements]
  | left :: lefts, rights, equal => by
    cases rights with
    | nil => simp [equalElements] at equal
    | cons right rights =>
      simp only [equalElements, Bool.and_eq_true] at equal
      rw [Json.eq_of_equal left right equal.1, eq_of_equalElements lefts rights equal.2]

theorem Members.toList_eq_of_equal {first second : Option String} :
    (lefts : Members first) → (rights : Members second) → lefts.equal rights = true →
      lefts.toList = rights.toList
  | .nil, rights, equal => by cases rights <;> simp_all [Members.equal, Members.toList]
  | .cons _ _ left lefts, rights, equal => by
    cases rights with
    | nil => simp [Members.equal] at equal
    | cons _ _ right rights =>
      simp only [Members.equal, Bool.and_eq_true, beq_iff_eq] at equal
      have valueEqual := Json.eq_of_equal left right equal.1.2
      have restEqual := Members.toList_eq_of_equal lefts rights equal.2
      simp only [Members.toList, List.cons.injEq, Prod.mk.injEq]
      exact ⟨⟨equal.1.1, valueEqual⟩, restEqual⟩
end

mutual
theorem Json.equal_self : (value : Json) → value.equal value = true
  | .null => rfl
  | .bool _ => by simp [Json.equal]
  | .number _ => by simp [Json.equal]
  | .string _ => by simp [Json.equal]
  | .array elements => by rw [Json.equal]; exact equalElements_self elements
  | .object members => by rw [Json.equal]; exact Members.equal_self members

theorem equalElements_self : (elements : List Json) → equalElements elements elements = true
  | [] => rfl
  | value :: rest => by
    simp [equalElements, Json.equal_self value, equalElements_self rest]

theorem Members.equal_self {floor : Option String} : (members : Members floor) →
    members.equal members = true
  | .nil => rfl
  | .cons _ _ value rest => by
    simp [Members.equal, Json.equal_self value, Members.equal_self rest]
end

instance : DecidableEq Json := fun left right =>
  if equal : left.equal right = true then isTrue (Json.eq_of_equal left right equal)
  else isFalse fun same => equal (by rw [same]; exact Json.equal_self right)

/-! ## Numeric sameness

Two values are the same when they differ at most in the sign of a zero. -/

def Number.same : Number → Number → Bool
  | .integer left, .integer right => decide (left = right)
  | .double left, .double right => left.sameNumber right
  | _, _ => false

mutual
def Json.same : Json → Json → Bool
  | .null, .null => true
  | .bool left, .bool right => left == right
  | .number left, .number right => left.same right
  | .string left, .string right => left == right
  | .array left, .array right => sameElements left right
  | .object left, .object right => left.same right
  | _, _ => false

def sameElements : List Json → List Json → Bool
  | [], [] => true
  | left :: lefts, right :: rights => left.same right && sameElements lefts rights
  | _, _ => false

def Members.same {first second : Option String} : Members first → Members second → Bool
  | .nil, .nil => true
  | .cons key _ value rest, .cons other _ old others =>
    key == other && value.same old && rest.same others
  | _, _ => false
end

namespace Json

/-! ## Making and reading values -/

def ofMembers (entries : List (String × Json)) : Json := .object (Members.ofList entries)

def ofNat (number : Nat) : Json := .number (.integer (WordInteger.ofNat number))

def emptyObject : Json := .object .nil

def ofStrings (texts : List String) : Json := .array (texts.map .string)

def asObject? : Json → Option (Members none)
  | .object members => some members
  | _ => none

def asArray? : Json → Option (List Json)
  | .array elements => some elements
  | _ => none

def asString? : Json → Option String
  | .string text => some text
  | _ => none

def member? (value : Json) (key : String) : Option Json :=
  value.asObject?.bind (·.find? key)

end Json

/-! ## Height -/

mutual
/-- How deep arrays and objects nest; scalars have height zero. -/
def Json.height : Json → Nat
  | .array elements => heightOfElements elements + 1
  | .object members => members.height + 1
  | _ => 0

def heightOfElements : List Json → Nat
  | [] => 0
  | value :: rest => max value.height (heightOfElements rest)

def Members.height {floor : Option String} : Members floor → Nat
  | .nil => 0
  | .cons _ _ value rest => max value.height rest.height
end

theorem Members.height_eq_foldr {floor : Option String} : (members : Members floor) →
    members.height = members.toList.foldr (fun entry height => max entry.2.height height) 0
  | .nil => rfl
  | .cons key above value rest => by
    rw [Members.height, Members.toList, List.foldr_cons, Members.height_eq_foldr rest]

theorem height_le_of_mem {value : Json} : {elements : List Json} → value ∈ elements →
    value.height ≤ heightOfElements elements
  | other :: rest, member => by
    rw [heightOfElements]
    rcases List.mem_cons.mp member with equal | member
    · rw [equal]; exact Nat.le_max_left _ _
    · exact Nat.le_trans (height_le_of_mem member) (Nat.le_max_right _ _)

theorem Members.height_le_of_mem {key : String} {value : Json} :
    {floor : Option String} → {members : Members floor} → (key, value) ∈ members.toList →
      value.height ≤ members.height
  | _, .cons other _ old rest, member => by
    rw [Members.height]
    rcases List.mem_cons.mp member with equal | member
    · cases equal; exact Nat.le_max_left _ _
    · exact Nat.le_trans (Members.height_le_of_mem member) (Nat.le_max_right _ _)

/-! ## Parts of a value -/

inductive Json.Part : Json → Json → Prop
  | self {value : Json} : Part value value
  | element {part value : Json} {elements : List Json} (member : value ∈ elements)
      (inner : Part part value) : Part part (.array elements)
  | member {part value : Json} {key : String} {members : Members none}
      (member : (key, value) ∈ members.toList) (inner : Part part value) :
      Part part (.object members)

namespace Json.Part

theorem trans {part middle whole : Json} (inner : Part part middle) (outer : Part middle whole) :
    Part part whole := by
  induction outer with
  | self => exact inner
  | element member _ induction => exact .element member induction
  | member member _ induction => exact .member member induction

theorem height_le {part whole : Json} (inside : Part part whole) :
    part.height ≤ whole.height := by
  induction inside with
  | self => exact Nat.le_refl _
  | element member _ induction =>
    rw [Json.height]
    exact Nat.le_succ_of_le (Nat.le_trans induction (height_le_of_mem member))
  | member member _ induction =>
    rw [Json.height]
    exact Nat.le_succ_of_le (Nat.le_trans induction (Members.height_le_of_mem member))

end Json.Part

end ChartDialogue
